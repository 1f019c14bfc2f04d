import LeaseRoutes.Json.Document
import LeaseRoutes.Json.Fault
/-!
Readers of typed values. A reader goes through the tree of a text in the order of the text and
stops at the first problem: `Document.broken` is met only where the text stops being JSON.

A tree comes from one of three sources, which differ in a few faults. A `stream` is a text read on
the fly. A `buffer` was read whole before its shape was looked at. A `value` is no text at all.
-/

namespace LeaseRoutes.Json

inductive Source
  | stream
  | buffer
  | value
  deriving DecidableEq, Repr

abbrev Reader (α : Type) := Source → Document → Except Fault α

namespace Reader

/-- The fault of a tree that should have been something else. -/
def mismatch (expected : String) : Document → Fault
  | .null => .invalidType .null expected
  | .bool b => .invalidType (.boolean b) expected
  | .num n => .invalidType (.number n) expected
  | .str s => .invalidType (.string s) expected
  | .arr _ _ => .invalidType .sequence expected
  | .obj _ _ => .invalidType .map expected
  | .hugeNum | .badStr | .broken => .malformed

def boolean : Reader Bool := fun _ d =>
  match d with
  | .bool b => .ok b
  | d => .error (mismatch "a boolean" d)

/-- A whole number below `bound`, the bound of the numbers called `name`. -/
def word (bound : Nat) (name : String) : Reader Nat := fun _ d =>
  match d with
  | .num (.whole n) =>
    if 0 ≤ n ∧ n < bound then .ok n.toNat else .error (.invalidValue (.number (.whole n)) name)
  | d => .error (mismatch name d)

def word8 : Reader UInt8 := fun source d => UInt8.ofNat <$> word UInt8.size "u8" source d

def word32 : Reader UInt32 := fun source d => UInt32.ofNat <$> word UInt32.size "u32" source d

/-- A string that `read` turns into a value. -/
def parsed (expected : String) (read : String → Except String α) : Reader α := fun _ d =>
  match d with
  | .str s => match read s with
    | .ok a => .ok a
    | .error reason => .error (.badText (withoutPosition reason))
  | d => .error (mismatch expected d)

/-- `null` stands for nothing. -/
def optional (read : Reader α) : Reader (Option α) := fun source d =>
  match d with
  | .null => .ok none
  | d => some <$> read source d

/-- The value of the empty variant of a choice that was written as an object. -/
def emptyVariant : Reader Unit := fun source d =>
  match source, d with
  | _, .null => .ok ()
  | .buffer, .obj [] true => .ok ()
  | _, d => .error (mismatch "unit" d)

def variant (names : List (String × α)) (name : String) : Except Fault α :=
  match names.lookup name with
  | some a => .ok a
  | none => .error (.unknownVariant name (names.map Prod.fst))

/-- One of the named values: the name as a string, or as the only key of an object whose value is
`null`. -/
def choice (names : List (String × α)) : Reader α := fun source d =>
  match source, d with
  | _, .str s => variant names s
  | .stream, .obj [] true => .error .malformed
  | .stream, .obj ((.str key, x) :: rest) closed => do
    let a ← variant names key
    emptyVariant .stream x
    if rest.isEmpty && closed then return a else throw .malformed
  | .stream, _ => .error .malformed
  | source, .obj [(.str key, x)] _ => do
    let a ← variant names key
    emptyVariant source x
    return a
  | _, .obj _ _ => .error (.invalidValue .map "map with a single key")
  | _, d => .error (mismatch "string or map" d)

/-- All items of an array. -/
def items (read : Reader α) (source : Source) : List Document → Except Fault (List α)
  | [] => .ok []
  | d :: rest => do
    let a ← read source d
    return a :: (← items read source rest)

def list (read : Reader α) : Reader (List α) := fun source d =>
  match d with
  | .arr ds closed => do
    let as ← items read source ds
    if closed then return as else throw .malformed
  | d => .error (mismatch "a sequence" d)

end Reader

/-- A field of a record. If it is missing `absent` stands for it. -/
structure Field (α : Type) where
  name : String
  read : Reader α
  absent : Option α

namespace Field

/-- A field that is looked at but not kept. -/
def check (f : Field α) : Field Unit where
  name := f.name
  read := fun source d => (f.read source d).map fun _ => ()
  absent := f.absent.map fun _ => ()

/-- The value of a field among the fields that were found. -/
def get (f : Field α) (source : Source) (found : List (String × Document)) : Except Fault α :=
  match found.lookup f.name, f.absent with
  | some d, _ => f.read source d
  | none, some a => .ok a
  | none, none => .error (.missingField f.name)

end Field

/-- A record is an object with its fields as members, or an array of its fields in their order. -/
structure Schema where
  name : String
  fields : List (Field Unit)

namespace Schema

/-- The first `n` fields in words. -/
def expectedFields (n : Nat) : String :=
  Text.decimal n ++ if n = 1 then " element" else " elements"

/-- Checks members in their order. Members that are no field are skipped. -/
def members (s : Schema) (source : Source) :
    List String → List (Document × Document) → Except Fault (List (String × Document))
  | _, [] => .ok []
  | seen, (.str key, d) :: rest =>
    match s.fields.find? fun f => f.name = key with
    | some f => do
      if key ∈ seen then throw (.duplicateField key)
      f.read source d
      return (key, d) :: (← s.members source (key :: seen) rest)
    | none => if d.skips then s.members source seen rest else .error .malformed
  | _, _ :: _ => .error .malformed

/-- Checks the items of an array against the fields. -/
def positions (s : Schema) (source : Source) (closed : Bool) (n : Nat) :
    List (Field Unit) → List Document → Except Fault (List (String × Document))
  | [], [] => if closed then .ok [] else .error .malformed
  | [], d :: rest =>
    let total := n + (d :: rest).length
    match source with
    | .stream => .error .malformed
    | .buffer => .error (.invalidLength total (expectedFields n ++ " in sequence"))
    | .value => .error (.invalidLength total "fewer elements in array")
  | f :: fields, d :: rest => do
    f.read source d
    return (f.name, d) :: (← s.positions source closed (n + 1) fields rest)
  | f :: fields, [] =>
    if !closed then .error .malformed
    else if f.absent.isSome then s.positions source closed (n + 1) fields []
    else .error (.invalidLength n
      ("struct " ++ s.name ++ " with " ++ expectedFields s.fields.length))

/-- The fields of a record that are there, each of them read without a fault. -/
def found (s : Schema) : Reader (List (String × Document)) := fun source d =>
  match d with
  | .obj ms closed => do
    let fields ← s.members source [] ms
    if closed then return fields else throw .malformed
  | .arr ds closed => s.positions source closed 0 s.fields ds
  | d => .error (Reader.mismatch ("struct " ++ s.name) d)

end Schema

/-- Reads a text that must hold nothing else. -/
def Reader.text (read : Reader α) (s : String) : Except Fault α :=
  let (d, whole) := Document.ofText s
  match read .stream d with
  | .ok a => if whole then .ok a else .error .malformed
  | .error e => .error e

/-- Reads a value. -/
def Reader.fromValue (read : Reader α) (j : Json) : Except Fault α := read .value (.ofJson j)

end LeaseRoutes.Json
