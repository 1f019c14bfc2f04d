import LeaseRoutes.Text.Decimal
/-!
Labels of domain names in the letters, digits and hyphens of ASCII. The ASCII characters of a
label stand first; the others follow as differences between places, in digits whose weights adapt
to what was written before.
-/

namespace LeaseRoutes.Punycode

def base : Nat := 36

def digit (n : Nat) : Char :=
  if n < 26 then Char.ofNat ('a'.toNat + n) else Char.ofNat ('0'.toNat + (n - 26))

def digit? (c : Char) : Option Nat :=
  if 'a' ≤ c ∧ c ≤ 'z' then some (c.toNat - 'a'.toNat)
  else if 'A' ≤ c ∧ c ≤ 'Z' then some (c.toNat - 'A'.toNat)
  else (Text.decDigit? c).map (· + 26)

/-- The least digit that ends a number, at the place `k`. -/
def threshold (k bias : Nat) : Nat := max 1 (min 26 (k - bias))

def shrink (delta k : Nat) : Nat :=
  if 455 < delta then shrink (delta / 35) (k + base) else k + base * delta / (delta + 38)
termination_by delta
decreasing_by exact Nat.div_lt_self (by omega) (by omega)

/-- The bias after a difference, `count` characters being known now. -/
def adapt (delta count : Nat) (first : Bool) : Nat :=
  let delta := if first then delta / 700 else delta / 2
  shrink (delta + delta / count) 0

/-- A difference in digits. -/
def number (bias k q : Nat) : List Char :=
  let t := threshold k bias
  if q < t then [digit q]
  else digit (t + (q - t) % (base - t)) :: number bias (k + base) ((q - t) / (base - t))
termination_by q
decreasing_by
  have : 1 ≤ threshold k bias := by unfold threshold; omega
  have := Nat.div_le_self (q - threshold k bias) (base - threshold k bias)
  omega

structure Encoding where
  text : List Char
  delta : Nat
  bias : Nat
  count : Nat

/-- Passes over a character while the places of `code` are written. -/
def Encoding.pass (basic code : Nat) (e : Encoding) (c : Char) : Encoding :=
  if c.toNat < code then { e with delta := e.delta + 1 }
  else if c.toNat = code then
    ⟨e.text ++ number e.bias base e.delta, 0, adapt e.delta (e.count + 1) (e.count == basic),
      e.count + 1⟩
  else e

/-- Writes the characters whose codes are listed in ascending order, all above `last`. -/
def Encoding.codes (label : List Char) (basic last : Nat) (e : Encoding) : List Nat → Encoding
  | [] => e
  | code :: rest =>
    let e := { e with delta := e.delta + (code - last) * (e.count + 1) }
    let e := label.foldl (Encoding.pass basic code) e
    codes label basic (code + 1) { e with delta := e.delta + 1 } rest

def encode (label : List Char) : List Char :=
  let basic := label.filter fun c => c.toNat < 0x80
  let codes := ((label.map Char.toNat).filter (0x80 ≤ ·)).mergeSort.eraseReps
  let start := if basic.isEmpty then [] else basic ++ ['-']
  (Encoding.codes label basic.length 0x80 ⟨start, 0, 72, basic.length⟩ codes).text

/-- Reads a difference: its value and the digits that follow. Values and weights have 32 bits. -/
def number? (bias k weight value : Nat) : List Char → Option (Nat × List Char)
  | [] => none
  | c :: rest => do
    let d ← digit? c
    let t := threshold k bias
    let value := value + d * weight
    if UInt32.size ≤ value ∨ UInt32.size ≤ weight then none
    else if d < t then return (value, rest)
    else number? bias (k + base) (weight * (base - t)) value rest

/-- Inserts the characters of the differences into a label, with a bound on their number. -/
def insertAll (label : List Char) (code place bias : Nat) (first : Bool) :
    Nat → List Char → Option (List Char)
  | _, [] => some label
  | 0, _ => none
  | bound + 1, digits =>
    match number? bias base 1 0 digits with
    | none => none
    | some (delta, digits) =>
      let count := label.length + 1
      let code := code + (place + delta) / count
      let place := (place + delta) % count
      if 0x110000 ≤ code ∨ (0xD800 ≤ code ∧ code < 0xE000) then none
      else insertAll (label.take place ++ Char.ofNat code :: label.drop place) code (place + 1)
        (adapt delta count first) false bound digits

/-- Reads a label. The last hyphen ends the ASCII characters, if there are any. -/
def decode (text : List Char) : Option (List Char) :=
  let reversed := text.reverse
  let digits := (reversed.takeWhile (· ≠ '-')).reverse
  let basic := (reversed.dropWhile (· ≠ '-')).tail.reverse
  insertAll basic 0x80 0 72 true text.length (if basic.isEmpty then text else digits)

end LeaseRoutes.Punycode
