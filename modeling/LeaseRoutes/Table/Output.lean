import LeaseRoutes.Table.Rows

namespace LeaseRoutes

/-- Why an output is of no use. -/
inductive OutputFault
  | notSingle (table : String) (found : Nat)
  | missing (what : String)
  | unreadable (response : String) (reason : Json.Fault)
  deriving DecidableEq, Repr

def OutputFault.message : OutputFault → String
  | .notSingle table found =>
    "field \"" ++ table ++ "\" of response does not contain exactly 1 item (found " ++
      Text.decimal found ++ ")"
  | .missing what => what ++ " is empty"
  | .unreadable response reason => "failed to parse " ++ response ++ ": " ++ reason.message

/-- How a kind of output is read from a body, and what it is if there is none. -/
structure Output (α : Type) where
  name : String
  read : Json → Except Json.Fault α
  absent : Option α

namespace Output

/-- A body that is missing, `null` or the empty text is no body. -/
def body? (result : Json) : Option Json :=
  match result.get? "body" with
  | none | some .null | some (.str "") => none
  | some body => some body

/-- Reads the output of a command from its result. -/
def parse (o : Output α) (result : Json) : Except OutputFault α :=
  match body? result, o.absent with
  | some body, _ =>
    match o.read body with
    | .ok a => .ok a
    | .error e => .error (.unreadable o.name e)
  | none, some a => .ok a
  | none, none => .error (.missing o.name)

/-- What a body looks like that is neither an object nor an array. -/
def shape : Json → Json.Shape
  | .null => .null
  | .bool b => .boolean b
  | .num n => .number n
  | .str s => .string s
  | .arr _ => .sequence
  | .obj _ => .map

/-- The rows of the only table of a body. -/
def onlyTable (row : Json → Option α) (name column : String) (body : Json) :
    Except Json.Fault (List α) :=
  let read (j : Json) : Except Json.Fault (List α) :=
    match Table.rows row j with
    | some rows => .ok rows
    | none => .error (.noVariant "OneOrMany")
  match body with
  | .obj members =>
    match members.lookup column with
    | some j => read j
    | none => .ok []
  | .arr [] => .ok []
  | .arr (j :: rest) => do
    let rows ← read j
    if rest.isEmpty then return rows
    else throw (.invalidLength (rest.length + 1) "fewer elements in array")
  | j => .error (.invalidType (shape j) ("struct " ++ name))

end Output

end LeaseRoutes
