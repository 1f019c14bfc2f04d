import LeaseRoutes.Lease.Lease

namespace LeaseRoutes

/-- The client asks for an address. -/
structure NaOption where
  iaid : UInt32
  address : Option Address
  deriving DecidableEq, Repr

/-- The client asks for a prefix. -/
structure PdOption where
  iaid : UInt32
  address : Option Address
  length : Option UInt8
  deriving DecidableEq, Repr

/-- The packet of the client. The link is that of the first relay. -/
structure Query where
  transaction : UInt32
  link : Address
  na : Option NaOption
  pd : Option PdOption
  deriving DecidableEq, Repr

/-- A selection is fake while the client is only offered the lease. -/
structure Selection where
  fake : Bool
  query : Query
  lease : Lease
  deriving DecidableEq, Repr

inductive LeaseEvent
  | select (s : Selection)
  | release (l : Lease)
  | expire (l : Lease)
  | decline (l : Lease)
  deriving DecidableEq, Repr

section Fields

open Json.Reader

namespace NaOption

def iaidField : Json.Field UInt32 := ⟨"iaid", word32, none⟩
def addressField : Json.Field (Option Address) := ⟨"address", optional Address.read, some none⟩

def read : Json.Reader NaOption := fun source d => do
  let found ← Json.Schema.found ⟨"IaNaOption", [iaidField.check, addressField.check]⟩ source d
  return ⟨← iaidField.get source found, ← addressField.get source found⟩

def toJson (o : NaOption) : Json :=
  Json.object [("iaid", Json.ofNat o.iaid.toNat),
    ("address", Json.ofOption (fun a => .str a.text) o.address)]

end NaOption

namespace PdOption

def iaidField : Json.Field UInt32 := ⟨"iaid", word32, none⟩
def addressField : Json.Field (Option Address) := ⟨"prefix", optional Address.read, some none⟩
def lengthField : Json.Field (Option UInt8) := ⟨"prefix-len", optional word8, some none⟩

def read : Json.Reader PdOption := fun source d => do
  let schema : Json.Schema :=
    ⟨"IaPdOption", [iaidField.check, addressField.check, lengthField.check]⟩
  let found ← schema.found source d
  return ⟨← iaidField.get source found, ← addressField.get source found,
    ← lengthField.get source found⟩

def toJson (o : PdOption) : Json :=
  Json.object [("iaid", Json.ofNat o.iaid.toNat),
    ("prefix", Json.ofOption (fun a => .str a.text) o.address),
    ("prefix-len", Json.ofOption (fun n => Json.ofNat n.toNat) o.length)]

end PdOption

namespace Query

def transactionField : Json.Field UInt32 := ⟨"transaction-id", word32, none⟩
def linkField : Json.Field Address := ⟨"link-address", Address.read, none⟩
def naField : Json.Field (Option NaOption) := ⟨"ia-na", optional NaOption.read, some none⟩
def pdField : Json.Field (Option PdOption) := ⟨"ia-pd", optional PdOption.read, some none⟩

def read : Json.Reader Query := fun source d => do
  let schema : Json.Schema :=
    ⟨"Query6", [transactionField.check, linkField.check, naField.check, pdField.check]⟩
  let found ← schema.found source d
  return ⟨← transactionField.get source found, ← linkField.get source found,
    ← naField.get source found, ← pdField.get source found⟩

def toJson (q : Query) : Json :=
  Json.object [("transaction-id", Json.ofNat q.transaction.toNat),
    ("link-address", .str q.link.text),
    ("ia-na", Json.ofOption NaOption.toJson q.na),
    ("ia-pd", Json.ofOption PdOption.toJson q.pd)]

end Query

namespace Selection

def fakeField : Json.Field Bool := ⟨"fake-allocation", boolean, some false⟩
def queryField : Json.Field Query := ⟨"query", Query.read, none⟩
def leaseField : Json.Field Lease := ⟨"lease", Lease.read, none⟩

def read : Json.Reader Selection := fun source d => do
  let schema : Json.Schema :=
    ⟨"SelectEvent", [fakeField.check, queryField.check, leaseField.check]⟩
  let found ← schema.found source d
  return ⟨← fakeField.get source found, ← queryField.get source found,
    ← leaseField.get source found⟩

end Selection

namespace LeaseEvent

inductive Hook
  | select
  | release
  | expire
  | decline
  deriving DecidableEq, Repr

def Hook.names : List (String × Hook) :=
  [("lease6_select", .select), ("lease6_release", .release), ("lease6_expire", .expire),
    ("lease6_decline", .decline)]

def Hook.name : Hook → String
  | .select => "lease6_select"
  | .release => "lease6_release"
  | .expire => "lease6_expire"
  | .decline => "lease6_decline"

/-- The name of a hook. -/
def Hook.read : Json.Reader Hook := fun _ d =>
  match d with
  | .str s => variant Hook.names s
  | d => .error (mismatch "variant identifier" d)

/-- Whether a value, which lies inside an array or object, can be read whole. -/
def whole (d : Json.Document) : Except Json.Fault Unit :=
  if (d.toJson? (Json.Document.depthLimit - 1)).isSome then .ok () else .error .malformed

/-- Finds the hook among the members of an event, and the other members. -/
def splitMembers (hook : Option Hook) :
    List (Json.Document × Json.Document) →
      Except Json.Fault (Option Hook × List (Json.Document × Json.Document))
  | [] => .ok (hook, [])
  | (.str "hook", d) :: rest => do
    if hook.isSome then throw (.duplicateField "hook")
    splitMembers (some (← Hook.read .stream d)) rest
  | (.str key, d) :: rest => do
    whole d
    let (hook, others) ← splitMembers hook rest
    return (hook, (.str key, d) :: others)
  | _ :: _ => .error .malformed

/-- The hook of an event and the rest of it. In an array the hook comes first. -/
def splitHook : Json.Document → Except Json.Fault (Hook × Json.Document)
  | .obj members closed => do
    let (hook, others) ← splitMembers none members
    if !closed then throw .malformed
    match hook with
    | some hook => return (hook, .obj others true)
    | none => throw (.missingField "hook")
  | .arr [] closed => .error (if closed then .missingField "hook" else .malformed)
  | .arr (d :: rest) closed => do
    let hook ← Hook.read .stream d
    rest.forM whole
    if closed then return (hook, .arr rest true) else throw .malformed
  | d => .error (mismatch "internally tagged enum LeaseEvent" d)

def removalField : Json.Field Lease := ⟨"lease", Lease.read, none⟩

/-- The lease of an event that takes it away. -/
def readRemoval : Json.Reader Lease := fun source d => do
  let found ← Json.Schema.found ⟨"RemovalEvent", [removalField.check]⟩ source d
  removalField.get source found

def read : Json.Reader LeaseEvent := fun _ d => do
  let (hook, content) ← splitHook d
  match hook with
  | .select => return .select (← Selection.read .buffer content)
  | .release => return .release (← readRemoval .buffer content)
  | .expire => return .expire (← readRemoval .buffer content)
  | .decline => return .decline (← readRemoval .buffer content)

/-- Reads a line that holds one event. -/
def ofText (line : String) : Except Json.Fault LeaseEvent := LeaseEvent.read.text line

def hook : LeaseEvent → Hook
  | .select _ => .select
  | .release _ => .release
  | .expire _ => .expire
  | .decline _ => .decline

def lease : LeaseEvent → Lease
  | .select s => s.lease
  | .release l | .expire l | .decline l => l

/-- The event as an object, with all its members. -/
def toJson (e : LeaseEvent) : Json :=
  match e with
  | .select s => Json.object [("hook", .str e.hook.name), ("fake-allocation", .bool s.fake),
      ("query", s.query.toJson), ("lease", s.lease.toJson)]
  | .release l | .expire l | .decline l =>
    Json.object [("hook", .str e.hook.name), ("lease", l.toJson)]

end LeaseEvent

end Fields

end LeaseRoutes
