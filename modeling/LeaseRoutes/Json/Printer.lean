import LeaseRoutes.Json.Value
import LeaseRoutes.Text.Decimal

namespace LeaseRoutes.Json

/-- A character as it stands in a string. -/
def escapeChar (c : Char) : List Char :=
  match c with
  | '"' => ['\\', '"']
  | '\\' => ['\\', '\\']
  | '\n' => ['\\', 'n']
  | '\r' => ['\\', 'r']
  | '\t' => ['\\', 't']
  | '\x08' => ['\\', 'b']
  | '\x0c' => ['\\', 'f']
  | c =>
    if c.toNat < 0x20 then
      '\\' :: 'u' :: '0' :: '0' :: Text.hexByte (UInt8.ofNat c.toNat)
    else [c]

def quote (s : String) : List Char :=
  '"' :: s.toList.flatMap escapeChar ++ ['"']

/-- The text of a number. A real that is not finite has none and is written as `null`. -/
def numberText : Number → String
  | .whole n => Text.signed n
  | .real d => if d.isFinite then d.compact else "null"

mutual

/-- The text of a value as characters. -/
def print : Json → List Char
  | .null => "null".toList
  | .bool true => "true".toList
  | .bool false => "false".toList
  | .num n => (numberText n).toList
  | .str s => quote s
  | .arr items => '[' :: printItems items ++ [']']
  | .obj members => '\x7b' :: printMembers members ++ ['\x7d']

def printItems : List Json → List Char
  | [] => []
  | [x] => print x
  | x :: y :: rest => print x ++ ',' :: printItems (y :: rest)

def printMembers : List (String × Json) → List Char
  | [] => []
  | [(k, x)] => quote k ++ ':' :: print x
  | (k, x) :: m :: rest => quote k ++ ':' :: print x ++ ',' :: printMembers (m :: rest)

end

/-- The compact text of a value. -/
def text (j : Json) : String := String.ofList (print j)

end LeaseRoutes.Json
