import LeaseRoutes.Json.Literal
/-!
The tree of a JSON text as far as the text could be read. Where it stops being JSON the tree ends
in `broken`, or an array or an object is not closed, so that a reader that goes through the tree
in its order meets the first problem first. Numbers too large for a double and strings with a lone
surrogate are kept apart, since a reader that skips them accepts them.
-/

namespace LeaseRoutes.Json

/-- The key of a member is what stands in its place, a string unless the text is broken. -/
inductive Document
  | null
  | bool (b : Bool)
  | num (n : Number)
  | hugeNum
  | str (s : String)
  | badStr
  | arr (items : List Document) (closed : Bool)
  | obj (members : List (Document × Document)) (closed : Bool)
  | broken
  deriving Repr, Inhabited

namespace Document

def isSpace (c : Char) : Bool := c == ' ' || c == '\n' || c == '\t' || c == '\r'

def skipSpace (cs : List Char) : List Char := cs.dropWhile isSpace

/-- A part of a string: a character, or a unit of UTF-16 that was written as an escape. -/
inductive StringPart
  | char (c : Char)
  | unit (n : Nat)
  deriving DecidableEq, Repr

/-- The character of an escape of one letter. -/
def escaped? : Char → Option Char
  | '"' => some '"'
  | '\\' => some '\\'
  | '/' => some '/'
  | 'b' => some '\x08'
  | 'f' => some '\x0c'
  | 'n' => some '\n'
  | 'r' => some '\r'
  | 't' => some '\t'
  | _ => none

/-- The parts of a string up to its closing quote, and the text after it. -/
def stringParts : List Char → Option (List StringPart × List Char)
  | [] => none
  | '"' :: rest => some ([], rest)
  | '\\' :: 'u' :: a :: b :: c :: d :: rest => do
    let n ← Text.hexNat? 0 [a, b, c, d]
    let (parts, rest) ← stringParts rest
    return (.unit n :: parts, rest)
  | '\\' :: e :: rest => do
    let c ← escaped? e
    let (parts, rest) ← stringParts rest
    return (.char c :: parts, rest)
  | c :: rest =>
    if c.toNat < 0x20 ∨ c = '\\' then none
    else do
      let (parts, rest) ← stringParts rest
      return (.char c :: parts, rest)

def isLeading (n : Nat) : Bool := 0xD800 ≤ n && n < 0xDC00

def isTrailing (n : Nat) : Bool := 0xDC00 ≤ n && n < 0xE000

/-- Joins every leading surrogate with the trailing one that follows it. A surrogate alone is no
character. -/
def joinUnits : List StringPart → Option (List Char)
  | [] => some []
  | .char c :: rest => (joinUnits rest).map (c :: ·)
  | .unit n :: .unit m :: rest =>
    if isLeading n then
      if isTrailing m then
        (joinUnits rest).map (Char.ofNat (0x10000 + (n - 0xD800) * 0x400 + (m - 0xDC00)) :: ·)
      else none
    else if isTrailing n then none
    else (joinUnits (.unit m :: rest)).map (Char.ofNat n :: ·)
  | .unit n :: rest =>
    if isLeading n || isTrailing n then none else (joinUnits rest).map (Char.ofNat n :: ·)

/-- The string whose opening quote has been read. -/
def stringAt (cs : List Char) : Option (Option String × List Char) := do
  let (parts, rest) ← stringParts cs
  return ((joinUnits parts).map String.ofList, rest)

/-- What follows `word`, if the text begins with it. -/
def after? : List Char → List Char → Option (List Char)
  | [], cs => some cs
  | w :: word, c :: cs => if w = c then after? word cs else none
  | _ :: _, [] => none

/-- A string, whatever characters are in it. -/
def isText : Document → Bool
  | .str _ | .badStr => true
  | _ => false

mutual

/-- Reads the value at the start of a text. Each value, and each item of an array or object,
takes one step. -/
def valueAt : Nat → List Char → Document × List Char
  | 0, cs => (.broken, cs)
  | steps + 1, cs =>
    match skipSpace cs with
    | [] => (.broken, [])
    | 'n' :: rest => match after? ['u', 'l', 'l'] rest with
      | some rest => (.null, rest)
      | none => (.broken, rest)
    | 't' :: rest => match after? ['r', 'u', 'e'] rest with
      | some rest => (.bool true, rest)
      | none => (.broken, rest)
    | 'f' :: rest => match after? ['a', 'l', 's', 'e'] rest with
      | some rest => (.bool false, rest)
      | none => (.broken, rest)
    | '"' :: rest => match stringAt rest with
      | some (some s, rest) => (.str s, rest)
      | some (none, rest) => (.badStr, rest)
      | none => (.broken, rest)
    | '[' :: rest => match skipSpace rest with
      | ']' :: rest => (.arr [] true, rest)
      | rest =>
        let (items, closed, rest) := itemsAt steps rest
        (.arr items closed, rest)
    | '\x7b' :: rest => match skipSpace rest with
      | '\x7d' :: rest => (.obj [] true, rest)
      | rest =>
        let (members, closed, rest) := membersAt steps rest
        (.obj members closed, rest)
    | cs => match Literal.read cs with
      | some (l, rest) => match l.number with
        | some n => (.num n, rest)
        | none => (.hugeNum, rest)
      | none => (.broken, cs)

/-- The items of an array from the next one on, and whether its bracket was found. -/
def itemsAt : Nat → List Char → List Document × Bool × List Char
  | 0, cs => ([.broken], false, cs)
  | steps + 1, cs =>
    match valueAt steps cs with
    | (.broken, rest) => ([.broken], false, rest)
    | (x, rest) => match skipSpace rest with
      | ',' :: rest =>
        let (xs, closed, rest) := itemsAt steps rest
        (x :: xs, closed, rest)
      | ']' :: rest => ([x], true, rest)
      | rest => ([x], false, rest)

/-- The members of an object from the next one on, and whether its brace was found. -/
def membersAt : Nat → List Char → List (Document × Document) × Bool × List Char
  | 0, cs => ([], false, cs)
  | steps + 1, cs =>
    let (key, rest) := valueAt steps cs
    if !key.isText then ([(key, .broken)], false, rest)
    else match skipSpace rest with
      | ':' :: rest => match valueAt steps rest with
        | (.broken, rest) => ([(key, .broken)], false, rest)
        | (x, rest) => match skipSpace rest with
          | ',' :: rest =>
            let (xs, closed, rest) := membersAt steps rest
            ((key, x) :: xs, closed, rest)
          | '\x7d' :: rest => ([(key, x)], true, rest)
          | rest => ([(key, x)], false, rest)
      | rest => ([(key, .broken)], false, rest)

end

/-- The tree of a text, and whether only white space follows it. -/
def ofText (s : String) : Document × Bool :=
  let (d, rest) := valueAt (2 * s.length + 2) s.toList
  (d, (skipSpace rest).isEmpty)

mutual

/-- Whether a reader that skips the value gets over it. -/
def skips : Document → Bool
  | .broken => false
  | .arr items closed => skipsItems items && closed
  | .obj members closed => skipsMembers members && closed
  | _ => true

def skipsItems : List Document → Bool
  | [] => true
  | x :: xs => skips x && skipsItems xs

def skipsMembers : List (Document × Document) → Bool
  | [] => true
  | (key, x) :: xs => key.isText && skips x && skipsMembers xs

end

mutual

/-- The value of a tree with at most `depth` levels of arrays and objects. -/
def toJson? : Nat → Document → Option Json
  | _, .null => some .null
  | _, .bool b => some (.bool b)
  | _, .num n => some (.num n)
  | _, .str s => some (.str s)
  | depth + 1, .arr items true => (toItems? depth items).map .arr
  | depth + 1, .obj members true => (toMembers? depth members).map Json.object
  | _, _ => none

def toItems? : Nat → List Document → Option (List Json)
  | _, [] => some []
  | depth, x :: xs => do return (← toJson? depth x) :: (← toItems? depth xs)

def toMembers? : Nat → List (Document × Document) → Option (List (String × Json))
  | _, [] => some []
  | depth, (.str k, x) :: xs => do return (k, ← toJson? depth x) :: (← toMembers? depth xs)
  | _, _ :: _ => none

end

/-- Arrays and objects may be nested this deep. -/
def depthLimit : Nat := 127

mutual

/-- The tree of a value. -/
def ofJson : Json → Document
  | .null => .null
  | .bool b => .bool b
  | .num n => .num n
  | .str s => .str s
  | .arr items => .arr (ofItems items) true
  | .obj members => .obj (ofMembers members) true

def ofItems : List Json → List Document
  | [] => []
  | x :: xs => ofJson x :: ofItems xs

def ofMembers : List (String × Json) → List (Document × Document)
  | [] => []
  | (key, x) :: xs => (.str key, ofJson x) :: ofMembers xs

end

end Document

/-- Reads a text as one value. Of a repeated key the last value stays. -/
def ofText? (s : String) : Option Json :=
  match Document.ofText s with
  | (d, true) => d.toJson? Document.depthLimit
  | (_, false) => none

end LeaseRoutes.Json
