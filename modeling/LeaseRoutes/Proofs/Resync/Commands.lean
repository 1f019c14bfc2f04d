import LeaseRoutes.Proofs.Exporter.Queue
import LeaseRoutes.Proofs.Switch.Survey

namespace LeaseRoutes

open Switch

namespace Resync

/-- The command that asserts the route of a lease, if it has one: the route to an active address
leads to the interface of its host, the route to an active prefix to the first active address
of its client. -/
def command? (ordered : List Lease) (map : HardwareMap) (l : Lease) : Option String :=
  match l.state, l.association with
  | .active, .na =>
    (l.hardware.bind fun mac => map.lookup mac).map fun interface =>
      "ipv6 route " ++ l.address.text ++ "/128 " ++ interface
  | .active, .pd =>
    if l.length ≤ 128 then
      (ordered.find? (LeaseStore.isSibling l.duid l.iaid)).map fun sibling =>
        "ipv6 route " ++ l.address.text ++ "/" ++ Text.decimal l.length.toNat ++ " " ++
          sibling.address.text
    else none
  | _, _ => none

/-- The commands of a whole snapshot. -/
def commands (leases : List Lease) (map : HardwareMap) : List String :=
  let ordered := LeaseStore.bySubnet leases
  ordered.filterMap (command? ordered map)

/-! ## Decisions -/

variable (store : LeaseStore)

/-- A decision and a command agree: there is an intent just if there is a command, and the intent
sends that command alone. -/
def Agree (decision : Except Skip Intent) (command : Option String) : Prop :=
  match decision, command with
  | .ok i, some c => Exporter.Known store i .apply (Rpc.Batch.single c)
  | .error _, none => True
  | .ok _, none | .error _, some _ => False

theorem agree_na {r : Reply} {map : HardwareMap} (h : surveyed r = .ok map) (l : Lease) :
    Agree store (na map l) ((l.hardware.bind fun mac => map.lookup mac).map fun interface =>
      "ipv6 route " ++ l.address.text ++ "/128 " ++ interface) := by
  unfold na
  cases found : l.hardware.bind fun mac => map.lookup mac with
  | none => trivial
  | some interface =>
    obtain ⟨mac, _, looked⟩ := Option.bind_eq_some_iff.1 found
    have named : (Payload.naApplyTo interface l.address).fault = none :=
      if_neg (not_blank_of_lookup h looked)
    simp only [intent?, Intent.make_of_valid none l.iaid l.duid named, Option.map_some]
    exact ⟨.na .apply l.address interface, rfl, Change.batch_na_apply _ _⟩

theorem agree_pd (l : Lease) :
    Agree store (pd store l)
      (if l.length ≤ 128 then
        (store.toList.find? (LeaseStore.isSibling l.duid l.iaid)).map fun sibling =>
          "ipv6 route " ++ l.address.text ++ "/" ++ Text.decimal l.length.toNat ++ " " ++
            sibling.address.text
      else none) := by
  unfold pd
  rw [LeaseStore.sibling_eq_find?]
  cases found : store.toList.find? (LeaseStore.isSibling l.duid l.iaid) with
  | none =>
    simp only [Option.map_none, ite_self]
    trivial
  | some sibling =>
    by_cases short : l.length ≤ 128
    · have valid : (Payload.pdApply sibling.address ⟨l.address, l.length⟩).fault = none :=
        if_neg (UInt8.not_lt.2 short)
      simp only [intent?, Intent.make_of_valid none l.iaid l.duid valid, Option.map_some,
        if_pos short]
      exact ⟨.pd .apply ⟨l.address, l.length⟩ sibling.address.text, rfl,
        Change.batch_pd_apply _ _⟩
    · have long : (Payload.pdApply sibling.address ⟨l.address, l.length⟩).fault =
          some (.tooLong l.length) := if_pos (UInt8.not_le.1 short)
      simp only [intent?, Intent.make_of_fault none l.iaid l.duid long, if_neg short]
      trivial

theorem agree_decide {r : Reply} {map : HardwareMap} (h : surveyed r = .ok map) (l : Lease) :
    Agree store (decide store map l) (command? store.toList map l) := by
  cases state : l.state with
  | declined | reclaimed =>
    simp only [decide, Lease.isActive, command?, state]
    trivial
  | active =>
    cases association : l.association with
    | na =>
      simp only [decide, Lease.isActive, command?, state, association]
      exact agree_na store h l
    | pd =>
      simp only [decide, Lease.isActive, command?, state, association]
      exact agree_pd store l
    | ta =>
      simp only [decide, Lease.isActive, command?, state, association]
      trivial

/-- The intents of a resync stand for its commands, one for one and in order. -/
theorem known_intents {r : Reply} {map : HardwareMap} (h : surveyed r = .ok map)
    (leases : List Lease) :
    List.Forall₂ (fun i b => Exporter.Known store i .apply b)
      ((leases.map (decide store map)).filterMap Except.toOption)
      ((leases.filterMap (command? store.toList map)).map .single) := by
  induction leases with
  | nil => exact .nil
  | cons l leases ih =>
    have agree := agree_decide store h l
    rw [List.map_cons]
    cases decision : decide store map l with
    | ok i =>
      cases command : command? store.toList map l with
      | some c =>
        simp only [decision, command, Agree] at agree
        simp only [List.filterMap_cons, Except.toOption, command, List.map_cons]
        exact .cons agree ih
      | none => simp only [decision, command, Agree] at agree
    | error e =>
      cases command : command? store.toList map l with
      | some c => simp only [decision, command, Agree] at agree
      | none =>
        simp only [List.filterMap_cons, Except.toOption, command]
        exact ih

theorem length_intents_le (map : HardwareMap) : (intents store map).length ≤ store.size := by
  refine Nat.le_trans (List.length_filterMap_le _ _) ?_
  rw [decisions, List.length_map]
  exact Nat.le_refl _

end Resync

end LeaseRoutes
