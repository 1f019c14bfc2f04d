import LeaseRoutes.Lease.Store
import LeaseRoutes.Switch.Change
import LeaseRoutes.Switch.Reply
import LeaseRoutes.Table.Route
/-!
How an intent becomes a change on the switch: at most one lookup that tells where the route leads,
then the change itself. Each stage that is not the last sends one batch, and its reply gives the
next stage.
-/

namespace LeaseRoutes.Switch

/-- What is looked up in the routes of the switch. -/
inductive Lookup
  | linkInterface (link leased : Address)
  | leasedInterface (leased : Address)
  | nextHop (target : Destination)
  deriving DecidableEq, Repr

/-- The destination whose routes are shown. -/
def Lookup.destination : Lookup → Destination
  | .linkInterface link _ => .host link
  | .leasedInterface leased => .host leased
  | .nextHop target => target

def Lookup.command (l : Lookup) : String := showRoute l.destination

/-- `done none` means that there was nothing to change. -/
inductive Stage
  | lookup (l : Lookup) (d : Direction)
  | change (c : Change)
  | done (c : Option Change)
  | failed (e : Fault)
  deriving DecidableEq, Repr

namespace Stage

def terminal : Stage → Bool
  | .done _ | .failed _ => true
  | .lookup .. | .change _ => false

/-- How many batches may still be sent from here on. -/
def rank : Stage → Nat
  | .lookup .. => 2
  | .change _ => 1
  | .done _ | .failed _ => 0

theorem rank_le (s : Stage) : s.rank ≤ 2 := by
  cases s <;> simp [rank]

/-- The batch that the stage sends. -/
def request : Stage → Option Rpc.Batch
  | .lookup l _ => some (.single l.command)
  | .change c => some c.batch
  | .done _ | .failed _ => none

/-- Just the stages that are not the last send a batch. -/
theorem terminal_eq_isNone (s : Stage) : s.terminal = s.request.isNone := by
  cases s <;> rfl

/-- The first stage of an intent. -/
def plan (store : LeaseStore) (i : Intent) (d : Direction) : Stage :=
  match i.payload, d with
  | .naApply link leased, d => .lookup (.linkInterface link leased) d
  | .naApplyTo interface leased, d => .change (.na d leased interface)
  | .pdApply hop target, d => .change (.pd d target hop.text)
  | .naRemove leased, .remove => .lookup (.leasedInterface leased) .remove
  | .pdRemove target, .remove =>
    match store.sibling i.duid i.iaid with
    | some sibling => .change (.pd .remove target sibling.address.text)
    | none => .lookup (.nextHop target) .remove
  | payload, .apply => .failed (.unsupported payload)

/-- Planning meets several siblings and takes the first. -/
def ambiguous (store : LeaseStore) (i : Intent) (d : Direction) : Bool :=
  match i.payload, d with
  | .pdRemove _, .remove => store.ambiguous i.duid i.iaid
  | _, _ => false

/-- What a route table says about a lookup. -/
def resolve (l : Lookup) (d : Direction) (t : RouteTable) : Stage :=
  match l with
  | .linkInterface _ leased =>
    match t.firstInterface fun _ => true with
    | .ok interface => .change (.na d leased interface)
    | .error e => .failed (.output e)
  | .leasedInterface leased =>
    match t.firstInterface isVlan with
    | .ok interface => .change (.na d leased interface)
    | .error e => .failed (.output e)
  | .nextHop target =>
    if t.prefixes.isEmpty then .done none
    else match t.firstNextHop with
      | some hop => .change (.pd d target hop)
      | none => .failed (.output (.missing "ipnexthop"))

/-- The stage after the reply to the request of this one. -/
def next (s : Stage) (r : Reply) : Stage :=
  match s with
  | .lookup l d =>
    match r.output RouteTable.output with
    | .ok table => resolve l d table
    | .error e => .failed e
  | .change c =>
    match r.judge with
    | .ok _ => .done (some c)
    | .error e => .failed e
  | s => s

theorem rank_resolve_le (l : Lookup) (d : Direction) (t : RouteTable) : (resolve l d t).rank ≤ 1 := by
  unfold resolve
  split
  · split <;> simp [rank]
  · split <;> simp [rank]
  · split
    · simp [rank]
    · split <;> simp [rank]

/-- Every reply brings a stage that is not the last nearer to its end. -/
theorem rank_next_lt {s : Stage} (r : Reply) (h : s.terminal = false) : (s.next r).rank < s.rank := by
  cases s with
  | lookup l d =>
    simp only [next]
    split
    · exact Nat.lt_succ_of_le (rank_resolve_le l d _)
    · simp [rank]
  | change c =>
    simp only [next]
    split <;> simp [rank]
  | done | failed => simp [terminal] at h

end Stage

end LeaseRoutes.Switch
