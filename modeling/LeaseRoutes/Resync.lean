import LeaseRoutes.Lease.Consequence
import LeaseRoutes.Switch.Survey

namespace LeaseRoutes

namespace Resync

/-- Why a lease is skipped. Temporary addresses have no routes. -/
inductive Skip
  | inactive
  | temporary
  | noMapping
  | noSibling
  | invalid
  deriving DecidableEq, Repr

def intent? (l : Lease) (p : Payload) : Except Skip Intent :=
  match Intent.make none l.iaid l.duid p with
  | .ok i => .ok i
  | .error _ => .error .invalid

/-- The route to an address leads to the interface where its host was seen. -/
def na (map : Switch.HardwareMap) (l : Lease) : Except Skip Intent :=
  match l.hardware.bind fun mac => map.lookup mac with
  | some interface => intent? l (.naApplyTo interface l.address)
  | none => .error .noMapping

/-- The route to a prefix leads to the address of its sibling. -/
def pd (store : LeaseStore) (l : Lease) : Except Skip Intent :=
  match store.sibling l.duid l.iaid with
  | some sibling => intent? l (.pdApply sibling.address ⟨l.address, l.length⟩)
  | none => .error .noSibling

/-- What becomes of one lease. -/
def decide (store : LeaseStore) (map : Switch.HardwareMap) (l : Lease) : Except Skip Intent :=
  if !l.isActive then .error .inactive
  else match l.association with
    | .na => na map l
    | .pd => pd store l
    | .ta => .error .temporary

def decisions (store : LeaseStore) (map : Switch.HardwareMap) : List (Except Skip Intent) :=
  store.toList.map (decide store map)

/-- The intents of a resync, all to be applied. -/
def intents (store : LeaseStore) (map : Switch.HardwareMap) : List Intent :=
  (decisions store map).filterMap Except.toOption

structure Report where
  na : Nat
  pd : Nat
  noMapping : Nat
  noSibling : Nat
  inactive : Nat
  invalid : Nat
  deriving DecidableEq, Repr

namespace Report

def empty : Report := ⟨0, 0, 0, 0, 0, 0⟩

/-- Counts one decision. -/
def add (r : Report) : Except Skip Intent → Report
  | .ok i =>
    match i.payload.association with
    | .pd => { r with pd := r.pd + 1 }
    | .na | .ta => { r with na := r.na + 1 }
  | .error .noMapping => { r with noMapping := r.noMapping + 1 }
  | .error .noSibling => { r with noSibling := r.noSibling + 1 }
  | .error .inactive => { r with inactive := r.inactive + 1 }
  | .error .invalid => { r with invalid := r.invalid + 1 }
  | .error .temporary => r

/-- The active leases that could have had a route. -/
def skipped (r : Report) : Nat := r.noMapping + r.noSibling + r.invalid

end Report

def report (store : LeaseStore) (map : Switch.HardwareMap) : Report :=
  (decisions store map).foldl Report.add .empty

/-- How many leases have several siblings of which the first is taken. -/
def ambiguities (store : LeaseStore) : Nat :=
  store.toList.countP fun l =>
    l.isActive && l.association = .pd && store.ambiguous l.duid l.iaid

end Resync

end LeaseRoutes
