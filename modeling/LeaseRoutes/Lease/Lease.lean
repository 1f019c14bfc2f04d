import LeaseRoutes.Identifiers
import LeaseRoutes.Json.Printer
import LeaseRoutes.Net.Address

namespace LeaseRoutes

inductive LeaseState
  | active
  | declined
  | reclaimed
  deriving DecidableEq, Repr

namespace LeaseState

def name : LeaseState → String
  | .active => "default"
  | .declined => "declined"
  | .reclaimed => "expired-reclaimed"

def read : Json.Reader LeaseState :=
  Json.Reader.choice
    [("default", .active), ("declined", .declined), ("expired-reclaimed", .reclaimed)]

end LeaseState

structure Lease where
  address : Address
  length : UInt8
  association : Association
  iaid : UInt32
  duid : Option Duid
  hardware : Option Mac
  subnet : UInt32
  state : LeaseState
  deriving DecidableEq, Repr

namespace Lease

/-- Neither declined nor reclaimed after it expired. -/
def isActive (l : Lease) : Bool := l.state = .active

/-- The leased address or prefix as the destination of a route. -/
def target (l : Lease) : Destination :=
  match l.association with
  | .pd => ⟨l.address, l.length⟩
  | .na | .ta => .host l.address

section Fields

open Json.Reader

def addressField : Json.Field Address := ⟨"address", Address.read, none⟩
def lengthField : Json.Field UInt8 := ⟨"prefix-len", word8, some 128⟩
def associationField : Json.Field Association := ⟨"type", Association.read, none⟩
def iaidField : Json.Field UInt32 := ⟨"iaid", word32, none⟩
def duidField : Json.Field (Option Duid) := ⟨"duid", optional Duid.read, some none⟩
def hardwareField : Json.Field (Option Mac) := ⟨"hw-address", optional Mac.read, some none⟩
def subnetField : Json.Field UInt32 := ⟨"subnet-id", word32, none⟩
def stateField : Json.Field LeaseState := ⟨"state", LeaseState.read, some .active⟩

def schema : Json.Schema where
  name := "Lease6"
  fields := [addressField.check, lengthField.check, associationField.check, iaidField.check,
    duidField.check, hardwareField.check, subnetField.check, stateField.check]

def read : Json.Reader Lease := fun source d => do
  let found ← schema.found source d
  return {
    address := ← addressField.get source found
    length := ← lengthField.get source found
    association := ← associationField.get source found
    iaid := ← iaidField.get source found
    duid := ← duidField.get source found
    hardware := ← hardwareField.get source found
    subnet := ← subnetField.get source found
    state := ← stateField.get source found }

end Fields

/-- The record of a lease, with all its fields. -/
def toJson (l : Lease) : Json :=
  Json.object [
    ("address", .str l.address.text),
    ("prefix-len", Json.ofNat l.length.toNat),
    ("type", .str l.association.name),
    ("iaid", Json.ofNat l.iaid.toNat),
    ("duid", Json.ofOption (fun d => .str d.text) l.duid),
    ("hw-address", Json.ofOption (fun m => .str m.text) l.hardware),
    ("subnet-id", Json.ofNat l.subnet.toNat),
    ("state", .str l.state.name)]

end Lease

end LeaseRoutes
