import LeaseRoutes.Json.Value
import LeaseRoutes.Text.Decimal
import LeaseRoutes.Text.Quoted

namespace LeaseRoutes.Json

/-- What a value looks like from outside. -/
inductive Shape
  | null
  | boolean (b : Bool)
  | number (n : Number)
  | string (s : String)
  | sequence
  | map
  deriving DecidableEq, Repr

def Shape.message : Shape → String
  | .null => "null"
  | .boolean true => "boolean `true`"
  | .boolean false => "boolean `false`"
  | .number (.whole n) => "integer `" ++ Text.signed n ++ "`"
  | .number (.real d) => "floating point `" ++ d.compact ++ "`"
  | .string s => "string " ++ Text.quoted s
  | .sequence => "sequence"
  | .map => "map"

inductive Fault
  /-- The text is no JSON. -/
  | malformed
  | missingField (name : String)
  | duplicateField (name : String)
  | unknownVariant (found : String) (known : List String)
  | invalidType (found : Shape) (expected : String)
  | invalidValue (found : Shape) (expected : String)
  | invalidLength (found : Nat) (expected : String)
  /-- A string that its type does not read, with the reason. -/
  | badText (reason : String)
  | noVariant (type : String)
  deriving DecidableEq, Repr

/-! ## Positions in reasons

A reason never names a place in the text. One that ends as if it did loses that end. -/

/-- A number of 64 bits that ends a text, and what stands before it. Both run backwards. -/
def endingNumber? (reversed : List Char) : Option (List Char) :=
  let ds := reversed.takeWhile fun c => (Text.decDigit? c).isSome
  match Text.bounded Text.word64 ds.reverse with
  | .ok _ => some (reversed.drop ds.length)
  | .error _ => none

def withoutEnding? (ending : String) (reversed : List Char) : Option (List Char) :=
  let ending := ending.toList.reverse
  if ending.isPrefixOf reversed then some (reversed.drop ending.length) else none

def withoutPosition (reason : String) : String :=
  let rest? := endingNumber? reason.toList.reverse >>= withoutEnding? " column " >>=
    endingNumber? >>= withoutEnding? " at line "
  rest?.elim reason fun rest => String.ofList rest.reverse

/-- Names to choose from. -/
def choices (names : List String) : String :=
  match names.map fun n => "`" ++ n ++ "`" with
  | [] => "nothing"
  | [a] => a
  | [a, b] => a ++ " or " ++ b
  | names => "one of " ++ ", ".intercalate names

def Fault.message : Fault → String
  | .malformed => "malformed JSON"
  | .missingField f => "missing field `" ++ f ++ "`"
  | .duplicateField f => "duplicate field `" ++ f ++ "`"
  | .unknownVariant v known => "unknown variant `" ++ v ++ "`, expected " ++ choices known
  | .invalidType found e => "invalid type: " ++ found.message ++ ", expected " ++ e
  | .invalidValue found e => "invalid value: " ++ found.message ++ ", expected " ++ e
  | .invalidLength n e => "invalid length " ++ Text.decimal n ++ ", expected " ++ e
  | .badText reason => reason
  | .noVariant type => "data did not match any variant of untagged enum " ++ type

end LeaseRoutes.Json
