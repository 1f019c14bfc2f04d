import LeaseRoutes.Identifiers
import LeaseRoutes.Net.Address
import LeaseRoutes.Text.Class

namespace LeaseRoutes

/-- `naApply` knows only the link of the client's relay and `naRemove` and `pdRemove` only the
destination: where the route leads is then looked up. -/
inductive Payload
  | naApply (link leased : Address)
  | pdApply (nextHop : Address) (target : Destination)
  | naRemove (leased : Address)
  | pdRemove (target : Destination)
  | naApplyTo (interface : String) (leased : Address)
  deriving DecidableEq, Repr

inductive IntentFault
  | tooLong (length : UInt8)
  | blankInterface
  deriving DecidableEq, Repr

def IntentFault.message : IntentFault → String
  | .tooLong n => "prefix length " ++ Text.decimal n.toNat ++ " exceeds 128"
  | .blankInterface => "interface name is empty"

namespace Payload

def association : Payload → Association
  | .naApply .. | .naRemove _ | .naApplyTo .. => .na
  | .pdApply .. | .pdRemove _ => .pd

def destination : Payload → Destination
  | .naApply _ leased | .naRemove leased | .naApplyTo _ leased => .host leased
  | .pdApply _ target | .pdRemove target => target

def fault : Payload → Option IntentFault
  | .pdApply _ target | .pdRemove target =>
    if 128 < target.length then some (.tooLong target.length) else none
  | .naApplyTo interface _ => if Text.Blank interface then some .blankInterface else none
  | .naApply .. | .naRemove _ => none

def text : Payload → String
  | .naApply link leased => "NA apply leased=" ++ leased.text ++ " link=" ++ link.text
  | .pdApply hop target => "PD apply prefix=" ++ target.text ++ " via=" ++ hop.text
  | .naRemove leased => "NA fuzzy remove leased=" ++ leased.text
  | .pdRemove target => "PD fuzzy remove prefix=" ++ target.text
  | .naApplyTo interface leased => "NA fast apply leased=" ++ leased.text ++ " if=" ++ interface

end Payload

structure Intent where
  transaction : Option UInt32
  iaid : UInt32
  duid : Option Duid
  payload : Payload
  valid : payload.fault = none
  deriving DecidableEq, Repr

namespace Intent

def make (transaction : Option UInt32) (iaid : UInt32) (duid : Option Duid) (payload : Payload) :
    Except IntentFault Intent :=
  match h : payload.fault with
  | none => .ok ⟨transaction, iaid, duid, payload, h⟩
  | some e => .error e

theorem make_of_valid (transaction : Option UInt32) (iaid : UInt32) (duid : Option Duid)
    {payload : Payload} (h : payload.fault = none) :
    make transaction iaid duid payload = .ok ⟨transaction, iaid, duid, payload, h⟩ := by
  unfold make
  split
  · rfl
  · next e fault => rw [h] at fault; cases fault

theorem make_of_fault (transaction : Option UInt32) (iaid : UInt32) (duid : Option Duid)
    {payload : Payload} {e : IntentFault} (h : payload.fault = some e) :
    make transaction iaid duid payload = .error e := by
  unfold make
  split
  · next valid => rw [h] at valid; cases valid
  · next fault => exact congrArg _ (Option.some.inj (fault.symm.trans h))

theorem payload_of_make {transaction : Option UInt32} {iaid : UInt32} {duid : Option Duid}
    {payload : Payload} {i : Intent} (h : make transaction iaid duid payload = .ok i) :
    i.payload = payload := by
  unfold make at h
  split at h
  · exact (Except.ok.inj h) ▸ rfl
  · cases h

def text (i : Intent) : String :=
  "transid=" ++ (i.transaction.elim "-" fun t => Text.decimal t.toNat) ++
  ", iaid=" ++ Text.decimal i.iaid.toNat ++
  ", duid=" ++ i.duid.elim "-" Duid.text ++
  ", " ++ i.payload.text

end Intent

end LeaseRoutes
