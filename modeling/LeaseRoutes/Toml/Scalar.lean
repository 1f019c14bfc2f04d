import LeaseRoutes.Json.Value
import LeaseRoutes.Text.Decimal

namespace LeaseRoutes.Toml

/-- Digits with single underscores between them. -/
def grouped? (isDigit : Char → Bool) : List Char → Option (List Char)
  | [] => none
  | [c] => if isDigit c then some [c] else none
  | c :: '_' :: rest => if isDigit c then (grouped? isDigit rest).map (c :: ·) else none
  | c :: rest => if isDigit c then (grouped? isDigit rest).map (c :: ·) else none

def isDecimal (c : Char) : Bool := (Text.decDigit? c).isSome

/-- The digits of a decimal number. Only zero begins with zero. -/
def decimal? (cs : List Char) : Option (List Char) :=
  match grouped? isDecimal cs with
  | some ('0' :: _ :: _) => none
  | ds => ds

def natOf (base : Nat) (ds : List Char) : Nat :=
  ds.foldl (fun n c => base * n + (Text.hexDigit? c).getD 0) 0

/-- Whole numbers have 64 bits with sign. -/
def int64? (n : Int) : Option Json :=
  if Int64.minValue.toInt ≤ n ∧ n ≤ Int64.maxValue.toInt then some (Json.ofInt n) else none

/-- The part before a sign, and whether it is a minus. -/
def signed (cs : List Char) : Bool × List Char :=
  match cs with
  | '-' :: rest => (true, rest)
  | '+' :: rest => (false, rest)
  | rest => (false, rest)

def inBase (base : Nat) (cs : List Char) : Option Json := do
  let ds ← grouped? (fun c => (Text.hexDigit? c).any (· < base)) cs
  int64? (natOf base ds)

def integer? (cs : List Char) : Option Json :=
  match cs with
  | '0' :: 'x' :: rest => inBase 16 rest
  | '0' :: 'o' :: rest => inBase 8 rest
  | '0' :: 'b' :: rest => inBase 2 rest
  | cs => do
    let (negative, rest) := signed cs
    let n := natOf 10 (← decimal? rest)
    int64? (if negative then -n else n)

/-- The exponent of a number, if one is written. -/
def exponent? (cs : List Char) : Option Int :=
  match cs with
  | [] => some 0
  | _ :: rest => do
    let (negative, rest) := signed rest
    let n := natOf 10 (← grouped? isDecimal rest)
    return if negative then -n else n

/-- A number with a fraction or an exponent. One too large for a double is none. -/
def float? (cs : List Char) : Option Json :=
  let (negative, rest) := signed cs
  let real (f : Float) : Json :=
    .num (.real (if negative then (Double.ofFloat f).neg else Double.ofFloat f))
  if rest = ['i', 'n', 'f'] ∨ rest = ['n', 'a', 'n'] then some .null
  else do
    let mantissa := rest.takeWhile fun c => c != 'e' && c != 'E'
    let power := rest.drop mantissa.length
    let front := mantissa.takeWhile (· != '.')
    let whole ← decimal? front
    let fraction ← match mantissa.drop front.length with
      | [] => if power.isEmpty then none else some []
      | _ :: ds => grouped? isDecimal ds
    let exponent := (← exponent? power) - fraction.length
    let n := natOf 10 (whole ++ fraction)
    let bounded := max (-100000) (min 100000 exponent)
    let f := if bounded < 0 then Float.ofScientific n true bounded.natAbs
      else Float.ofScientific n false bounded.natAbs
    if f.isInf then none else some (real f)

/-- Exactly two digits at the start, with their value up to `most`. -/
def two (most : Nat) : List Char → Option (Nat × List Char)
  | a :: b :: rest => do
    let n := 10 * (← Text.decDigit? a) + (← Text.decDigit? b)
    if n ≤ most then return (n, rest) else none
  | _ => none

def daysIn (year month : Nat) : Nat :=
  if month = 2 then
    if year % 4 = 0 ∧ (year % 100 ≠ 0 ∨ year % 400 = 0) then 29 else 28
  else if month = 4 ∨ month = 6 ∨ month = 9 ∨ month = 11 then 30
  else 31

/-- The text after a date at the start. -/
def dateAt (cs : List Char) : Option (List Char) := do
  let (century, rest) ← two 99 cs
  match ← two 99 rest with
  | (year, '-' :: rest) =>
    match ← two 12 rest with
    | (month, '-' :: rest) =>
      let (day, rest) ← two (daysIn (100 * century + year) month) rest
      if month = 0 ∨ day = 0 then none else some rest
    | _ => none
  | _ => none

/-- The text after a time of the day at the start. The seconds may be left out. -/
def timeAt (cs : List Char) : Option (List Char) := do
  match ← two 23 cs with
  | (_, ':' :: rest) =>
    let (_, rest) ← two 59 rest
    match rest with
    | ':' :: rest =>
      let (_, rest) ← two 60 rest
      match rest with
      | '.' :: rest =>
        let ds := rest.takeWhile isDecimal
        if ds.isEmpty then none else some (rest.drop ds.length)
      | rest => some rest
    | rest => some rest
  | _ => none

/-- Whether a distance from universal time is all that is left. -/
def isOffset (cs : List Char) : Bool :=
  match cs with
  | ['Z'] | ['z'] => true
  | sign :: rest =>
    (sign == '+' || sign == '-') &&
      match two 23 rest with
      | some (_, ':' :: rest) => match two 59 rest with
        | some (_, []) => true
        | _ => false
      | _ => false
  | [] => false

def isDateTime (cs : List Char) : Bool :=
  match dateAt cs with
  | some [] => true
  | some (c :: rest) =>
    (c == 'T' || c == 't' || c == ' ') &&
      match timeAt rest with
      | some rest => rest.isEmpty || isOffset rest
      | none => false
  | none => timeAt cs = some []

/-- The value of a word. -/
def word? (cs : List Char) : Option Json :=
  if cs = ['t', 'r', 'u', 'e'] then some (.bool true)
  else if cs = ['f', 'a', 'l', 's', 'e'] then some (.bool false)
  else if isDateTime cs then some (Json.object [("datetime", .str (String.ofList cs))])
  else match integer? cs with
    | some j => some j
    | none => float? cs

/-- Whether a character ends a word. -/
def endsWord (c : Char) : Bool :=
  [' ', '\t', '\n', '\r', ',', ']', '\x7d', '#', '='].contains c

/-- The word at the start of a text. One space may stand between a date and a time. -/
def wordAt (cs : List Char) : Option (Json × List Char) :=
  let word := cs.takeWhile fun c => !endsWord c
  let rest := cs.drop word.length
  let (word, rest) := match dateAt word, rest with
    | some [], ' ' :: d :: more =>
      if isDecimal d then
        let time := (d :: more).takeWhile fun c => !endsWord c
        (word ++ ' ' :: time, (d :: more).drop time.length)
      else (word, rest)
    | _, _ => (word, rest)
  (word? word).map (·, rest)

end LeaseRoutes.Toml
