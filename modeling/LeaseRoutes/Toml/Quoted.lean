import LeaseRoutes.Text.Decimal

namespace LeaseRoutes.Toml

/-- Control characters, tabs apart, stand in no string and no comment. -/
def isControl (c : Char) : Bool := (c.toNat < 0x20 && c != '\t') || c.toNat == 0x7F

def isSpace (c : Char) : Bool := c == ' ' || c == '\t'

/-- The text after a line break. -/
def lineBreak? : List Char → Option (List Char)
  | '\n' :: rest => some rest
  | '\r' :: '\n' :: rest => some rest
  | _ => none

/-- The character with a code, if it is one. -/
def scalar? (digits : List Char) : Option Char :=
  match Text.hexNat? 0 digits with
  | some n => if n < 0xD800 ∨ (0xE000 ≤ n ∧ n < 0x110000) then some (Char.ofNat n) else none
  | none => none

/-- The character after a back slash. -/
def escapeAt : List Char → Option (Char × List Char)
  | 'b' :: rest => some ('\x08', rest)
  | 't' :: rest => some ('\t', rest)
  | 'n' :: rest => some ('\n', rest)
  | 'f' :: rest => some ('\x0c', rest)
  | 'r' :: rest => some ('\r', rest)
  | 'e' :: rest => some ('\x1b', rest)
  | '"' :: rest => some ('"', rest)
  | '\\' :: rest => some ('\\', rest)
  | 'x' :: a :: b :: rest => (scalar? [a, b]).map (·, rest)
  | 'u' :: a :: b :: c :: d :: rest => (scalar? [a, b, c, d]).map (·, rest)
  | 'U' :: a :: b :: c :: d :: e :: f :: g :: h :: rest =>
    (scalar? [a, b, c, d, e, f, g, h]).map (·, rest)
  | _ => none

def prepend (c : Char) (r : Option (List Char × List Char)) : Option (List Char × List Char) :=
  r.map fun (cs, rest) => (c :: cs, rest)

/-- A string of one line up to its closing quote, with a bound on its length. -/
def lineAt (quote : Char) : Nat → List Char → Option (List Char × List Char)
  | 0, _ | _, [] => none
  | bound + 1, c :: rest =>
    if c = quote then some ([], rest)
    else if c = '\\' ∧ quote = '"' then
      match escapeAt rest with
      | some (e, rest) => prepend e (lineAt quote bound rest)
      | none => none
    else if isControl c then none
    else prepend c (lineAt quote bound rest)

/-- White space and line breaks. -/
def skipBlank : List Char → List Char
  | '\r' :: '\n' :: rest => skipBlank rest
  | c :: rest => if isSpace c || c == '\n' then skipBlank rest else c :: rest
  | [] => []

/-- A string of several lines up to its three closing quotes, with a bound on its length. One or
two more quotes before them belong to the string. A back slash at the end of a line takes away the
white space and the line breaks that follow. -/
def linesAt (quote : Char) : Nat → List Char → Option (List Char × List Char)
  | 0, _ | _, [] => none
  | bound + 1, c :: rest =>
    if c = quote ∧ rest.take 2 = [quote, quote] then
      let more := ((rest.drop 2).take 2).takeWhile (· = quote)
      some (more, rest.drop (2 + more.length))
    else if c = '\\' ∧ quote = '"' then
      match lineBreak? (rest.dropWhile isSpace) with
      | some rest => linesAt quote bound (skipBlank rest)
      | none =>
        match escapeAt rest with
        | some (e, rest) => prepend e (linesAt quote bound rest)
        | none => none
    else match lineBreak? (c :: rest) with
      | some rest => prepend '\n' (linesAt quote bound rest)
      | none => if isControl c then none else prepend c (linesAt quote bound rest)

/-- A string of one line that begins here. -/
def keyStringAt (cs : List Char) : Option (String × List Char) :=
  match cs with
  | q :: rest =>
    if q = '"' ∨ q = '\'' then
      (lineAt q (rest.length + 1) rest).map fun (s, rest) => (String.ofList s, rest)
    else none
  | [] => none

/-- A string of any form that begins here. A line break right after three quotes is dropped. -/
def stringAt (cs : List Char) : Option (String × List Char) :=
  match cs with
  | a :: b :: c :: rest =>
    if (a = '"' ∨ a = '\'') ∧ a = b ∧ b = c then
      let rest := (lineBreak? rest).getD rest
      (linesAt a (rest.length + 1) rest).map fun (s, rest) => (String.ofList s, rest)
    else keyStringAt cs
  | cs => keyStringAt cs

end LeaseRoutes.Toml
