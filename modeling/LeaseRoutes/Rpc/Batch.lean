import LeaseRoutes.Json.Printer

namespace LeaseRoutes.Rpc

structure Command where
  id : Int64
  text : String
  deriving DecidableEq, Repr

/-- Commands that are sent as one request and run in their order. -/
structure Batch where
  commands : List Command
  deriving DecidableEq, Repr

/-- An id that the batch already has. -/
structure DuplicateId where
  id : Int64
  deriving DecidableEq, Repr

def DuplicateId.message (d : DuplicateId) : String :=
  "duplicate command id " ++ Text.signed d.id.toInt ++ " in batch"

namespace Batch

def empty : Batch := ⟨[]⟩

def single (command : String) : Batch := ⟨[⟨1, command⟩]⟩

theorem single_inj {a b : String} : single a = single b ↔ a = b := by simp [single]

def size (b : Batch) : Nat := b.commands.length

/-- Adds a command at the end. -/
def push (b : Batch) (id : Int64) (command : String) : Except DuplicateId Batch :=
  if b.commands.any fun c => c.id = id then .error ⟨id⟩
  else .ok ⟨b.commands ++ [⟨id, command⟩]⟩

/-- Offers a command to the batch: the refusal, if there is one, and the batch afterwards. -/
def offer (b : Batch) (id : Int64) (command : String) : Option DuplicateId × Batch :=
  match b.push id command with
  | .ok b => (none, b)
  | .error e => (some e, b)

/-- The commands of pairs whose ids are distinct and not among `seen`. -/
def distinct (seen : List Int64) : List (Int64 × String) → Except DuplicateId (List Command)
  | [] => .ok []
  | (id, command) :: rest =>
    if id ∈ seen then .error ⟨id⟩
    else do return ⟨id, command⟩ :: (← distinct (id :: seen) rest)

def ofPairs (pairs : List (Int64 × String)) : Except DuplicateId Batch :=
  (distinct [] pairs).map .mk

/-- The request of one command. -/
def request (c : Command) : Json :=
  Json.object [
    ("method", .str "cli"),
    ("id", Json.ofInt c.id.toInt),
    ("jsonrpc", .str "2.0"),
    ("params", Json.object [("cmd", .str c.text), ("version", Json.ofNat 1)])]

/-- The array of requests that is sent, even for a single command. -/
def encode (b : Batch) : Json := .arr (b.commands.map request)

/-- What goes over the wire. -/
def wire (b : Batch) : String := b.encode.text

end Batch

end LeaseRoutes.Rpc
