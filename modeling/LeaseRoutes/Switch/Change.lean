import LeaseRoutes.Identifiers
import LeaseRoutes.Rpc.Batch
import LeaseRoutes.Switch.Command

namespace LeaseRoutes.Switch

inductive Direction
  | apply
  | remove
  deriving DecidableEq, Repr

def Direction.name : Direction → String
  | .apply => "apply"
  | .remove => "remove"

/-- The route leads `via` an interface or a next hop. When it is removed the neighbors of the
interface `flush` are forgotten too. -/
structure Change where
  direction : Direction
  association : Association
  destination : String
  via : String
  flush : Option String
  deriving DecidableEq, Repr

namespace Change

/-- The batch that makes the change, the route first. -/
def batch (c : Change) : Rpc.Batch :=
  match c.direction, c.flush with
  | .apply, _ => .single (installRoute c.destination c.via)
  | .remove, none => .single (withdrawRoute c.destination c.via)
  | .remove, some interface =>
    ⟨[⟨1, withdrawRoute c.destination c.via⟩, ⟨2, clearNeighbor interface⟩]⟩

/-- The change of the route to a leased address. -/
def na (d : Direction) (leased : Address) (interface : String) : Change where
  direction := d
  association := .na
  destination := (Destination.host leased).text
  via := interface
  flush := match d with
    | .apply => none
    | .remove => some interface

/-- The change of the route to a delegated prefix. -/
def pd (d : Direction) (target : Destination) (via : String) : Change where
  direction := d
  association := .pd
  destination := target.text
  via := via
  flush := none

theorem batch_na_apply (leased : Address) (interface : String) :
    (na .apply leased interface).batch =
      .single ("ipv6 route " ++ leased.text ++ "/128 " ++ interface) := by
  have whole : "/128 " = "/128" ++ " " := by decide
  change Rpc.Batch.single (installRoute (Destination.host leased).text interface) = _
  simp only [installRoute, Destination.text_host, whole, String.append_assoc]

/-- The route is withdrawn before the neighbors of its interface are forgotten. -/
theorem batch_na_remove (leased : Address) (interface : String) :
    (na .remove leased interface).batch =
      ⟨[⟨1, "no ipv6 route " ++ leased.text ++ "/128 " ++ interface⟩,
        ⟨2, "clear ipv6 neighbor " ++ interface ++ " force-delete"⟩]⟩ := by
  have whole : "/128 " = "/128" ++ " " := by decide
  have withdrawn : withdrawRoute (Destination.host leased).text interface =
      "no ipv6 route " ++ leased.text ++ "/128 " ++ interface := by
    unfold withdrawRoute
    rw [Destination.text_host, whole]
    simp only [String.append_assoc]
  rw [← withdrawn]
  rfl

theorem batch_pd_apply (target : Destination) (hop : String) :
    (pd .apply target hop).batch =
      .single ("ipv6 route " ++ target.address.text ++ "/" ++ Text.decimal target.length.toNat ++
        " " ++ hop) := by
  change Rpc.Batch.single (installRoute target.text hop) = _
  unfold installRoute
  simp only [Destination.text, String.append_assoc]

end Change

end LeaseRoutes.Switch
