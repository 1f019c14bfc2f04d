import LeaseRoutes.Lease.Lease
import LeaseRoutes.Metrics.Counters
/-!
A snapshot of the leases, grouped by subnet. Subnets stand in the order of their ids, and the
leases of one subnet in the order in which they were listed.
-/

namespace LeaseRoutes

structure LeaseStore where
  subnets : List (UInt32 × List Lease)
  deriving DecidableEq, Repr

namespace LeaseStore

/-- Adds a lease behind those of its subnet. -/
def addTo (l : Lease) : List (UInt32 × List Lease) → List (UInt32 × List Lease)
  | [] => [(l.subnet, [l])]
  | (id, leases) :: rest =>
    if l.subnet = id then (id, leases ++ [l]) :: rest
    else if l.subnet < id then (l.subnet, [l]) :: (id, leases) :: rest
    else (id, leases) :: addTo l rest

def ofList (leases : List Lease) : LeaseStore :=
  ⟨leases.foldl (fun subnets l => addTo l subnets) []⟩

/-- Reads the snapshot, an array of records. -/
def ofText (s : String) : Except Json.Fault LeaseStore :=
  ((Json.Reader.list Lease.read).text s).map ofList

def subnetIds (s : LeaseStore) : List UInt32 := s.subnets.map Prod.fst

/-- The leases of one subnet in any state. -/
def inSubnet (s : LeaseStore) (id : UInt32) : List Lease := (s.subnets.lookup id).getD []

def toList (s : LeaseStore) : List Lease := s.subnets.flatMap Prod.snd

def size (s : LeaseStore) : Nat := s.toList.length

/-- The leases of one identity association in any state. -/
def ofIdentity (s : LeaseStore) (a : Association) (duid : Duid) (iaid : UInt32) : List Lease :=
  s.toList.filter fun l => l.association = a ∧ l.iaid = iaid ∧ l.duid = some duid

/-- The active address leases of a client. A client without identifier has none. -/
def siblings (s : LeaseStore) (duid : Option Duid) (iaid : UInt32) : List Lease :=
  match duid with
  | some duid => (s.ofIdentity .na duid iaid).filter Lease.isActive
  | none => []

/-- The address lease that belongs to a client's prefixes: the first active one. -/
def sibling (s : LeaseStore) (duid : Option Duid) (iaid : UInt32) : Option Lease :=
  (s.siblings duid iaid).head?

/-- The first active lease is one of several. -/
def ambiguous (s : LeaseStore) (duid : Option Duid) (iaid : UInt32) : Bool :=
  1 < (s.siblings duid iaid).length

/-- Looks for the sibling and counts if it is one of several. -/
def find (s : LeaseStore) (duid : Option Duid) (iaid : UInt32) (c : Metrics.RouteCounters) :
    Option Lease × Metrics.RouteCounters :=
  (s.sibling duid iaid, c.duplicate (if s.ambiguous duid iaid then 1 else 0))

end LeaseStore

end LeaseRoutes
