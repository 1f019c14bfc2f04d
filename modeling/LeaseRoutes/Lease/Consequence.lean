import LeaseRoutes.Intent
import LeaseRoutes.Lease.Event
import LeaseRoutes.Lease.Store
import LeaseRoutes.Switch.Change

namespace LeaseRoutes

/-- Why an event that should have an intent has none. -/
inductive ConsequenceFault
  | missingSibling (duid : Option Duid) (iaid : UInt32)
  | invalid (e : IntentFault)
  deriving DecidableEq, Repr

def ConsequenceFault.message : ConsequenceFault → String
  | .missingSibling duid iaid =>
    "no active IA_NA lease found for " ++ duid.elim "-" Duid.text ++ " iaid " ++
      Text.decimal iaid.toNat
  | .invalid e => "invalid route intent: " ++ e.message

/-- An intent for a lease. -/
def Lease.intent (l : Lease) (transaction : Option UInt32) (p : Payload) :
    Except ConsequenceFault Intent :=
  match Intent.make transaction l.iaid l.duid p with
  | .ok i => .ok i
  | .error e => .error (.invalid e)

namespace Selection

/-- A selection has routes once it is real and its query asks for an address and a prefix. -/
def eligible? (s : Selection) : Option NaOption :=
  if s.fake ∨ s.query.pd.isNone then none else s.query.na

/-- The address to which a selected prefix leads: that of the sibling lease, or else the address
that the client asks for. -/
def nextHop? (store : LeaseStore) (s : Selection) (na : NaOption) : Option Address :=
  match store.sibling s.lease.duid s.lease.iaid with
  | some sibling => some sibling.address
  | none => na.address

def consequence (store : LeaseStore) (s : Selection) : Except ConsequenceFault (Option Intent) :=
  match s.eligible?, s.lease.association with
  | none, _ | some _, .ta => .ok none
  | some _, .na =>
    some <$> s.lease.intent s.query.transaction (.naApply s.query.link s.lease.address)
  | some na, .pd =>
    match s.nextHop? store na with
    | some hop =>
      some <$> s.lease.intent s.query.transaction (.pdApply hop ⟨s.lease.address, s.lease.length⟩)
    | none => .error (.missingSibling s.lease.duid s.lease.iaid)

end Selection

/-- The withdrawal of a lease's route. -/
def Lease.withdrawal (l : Lease) : Except ConsequenceFault (Option Intent) :=
  match l.association with
  | .na => some <$> l.intent none (.naRemove l.address)
  | .pd => some <$> l.intent none (.pdRemove ⟨l.address, l.length⟩)
  | .ta => .ok none

namespace LeaseEvent

/-- The intent of an event and what is to be done with it. -/
def consequence (store : LeaseStore) (e : LeaseEvent) :
    Except ConsequenceFault (Option (Intent × Switch.Direction)) :=
  match e with
  | .select s => (s.consequence store).map fun i => i.map fun i => (i, .apply)
  | .release l | .expire l | .decline l => l.withdrawal.map fun i => i.map fun i => (i, .remove)

/-- The consequence depends on one of several siblings, the first. -/
def ambiguous (store : LeaseStore) : LeaseEvent → Bool
  | .select s =>
    s.eligible?.isSome && s.lease.association = .pd && store.ambiguous s.lease.duid s.lease.iaid
  | .release _ | .expire _ | .decline _ => false

end LeaseEvent

end LeaseRoutes
