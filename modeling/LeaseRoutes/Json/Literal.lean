import LeaseRoutes.Json.Value
import LeaseRoutes.Text.Decimal
/-!
Number literals of JSON. A literal without point and exponent that fits 64 bits, signed or
unsigned, is whole; `-0` and every other literal is a double. The double is computed from the
leading digits that fit a word and one power of ten, so its last place may be off by one.
-/

namespace LeaseRoutes.Json

/-- A number as written. -/
structure Literal where
  negative : Bool
  whole : List Nat
  fraction : Option (List Nat)
  exponent : Option (Bool × List Nat)
  deriving DecidableEq, Repr

/-- The digits at the start of a text and what follows them. -/
def takeDigits : List Char → List Nat × List Char
  | [] => ([], [])
  | c :: rest =>
    match Text.decDigit? c with
    | some d =>
      let (ds, rest) := takeDigits rest
      (d :: ds, rest)
    | none => ([], c :: rest)

namespace Literal

def exponentAt (cs : List Char) : Option (Option (Bool × List Nat) × List Char) :=
  match cs with
  | c :: rest =>
    if c = 'e' ∨ c = 'E' then
      let (up, rest) : Bool × List Char := match rest with
        | '+' :: rest => (true, rest)
        | '-' :: rest => (false, rest)
        | rest => (true, rest)
      match takeDigits rest with
      | ([], _) => none
      | (ds, rest) => some (some (up, ds), rest)
    else some (none, c :: rest)
  | [] => some (none, [])

def fractionAt (cs : List Char) : Option (Option (List Nat) × List Char) :=
  match cs with
  | '.' :: rest =>
    match takeDigits rest with
    | ([], _) => none
    | (ds, rest) => some (some ds, rest)
  | rest => some (none, rest)

/-- Reads the literal at the start of a text. More than one digit must not begin with zero, and a
point or an exponent needs a digit after it. -/
def read (cs : List Char) : Option (Literal × List Char) :=
  let (negative, cs) : Bool × List Char := match cs with
    | '-' :: rest => (true, rest)
    | cs => (false, cs)
  match takeDigits cs with
  | ([], _) | (0 :: _ :: _, _) => none
  | (ds, rest) => do
    let (fraction, rest) ← fractionAt rest
    let (exponent, rest) ← exponentAt rest
    return (⟨negative, ds, fraction, exponent⟩, rest)

/-- A significand of 64 bits with the number of digits that were dropped behind it. -/
structure Significand where
  value : Nat
  dropped : Nat
  full : Bool

/-- Takes digits up to the first that does not fit. -/
def Significand.take (s : Significand) (digits : List Nat) : Significand :=
  digits.foldl (fun s d =>
    if s.full || Text.word64 ≤ 10 * s.value + d then ⟨s.value, s.dropped + 1, true⟩
    else ⟨10 * s.value + d, s.dropped, false⟩) s

/-- Digits after the point: how many of them fit behind the significand, and the result. -/
def Significand.takeFraction (value : Nat) : List Nat → Nat × Nat
  | [] => (value, 0)
  | d :: rest =>
    if Text.word64 ≤ 10 * value + d then (value, 0)
    else
      let (v, taken) := takeFraction (10 * value + d) rest
      (v, taken + 1)

def powerOfTen (n : Nat) : Float := Float.ofScientific 1 false n

def scaleDown (f : Float) (n : Nat) : Float :=
  if n ≤ 308 then f / powerOfTen n
  else if f == 0.0 then f
  else scaleDown (f / powerOfTen 308) (n - 308)
termination_by n

/-- The double of `value · 10^exponent`; there is none beyond the largest finite one. -/
def scale (value : Nat) (exponent : Int) : Option Float :=
  let f := (UInt64.ofNat value).toFloat
  if exponent < 0 then some (scaleDown f exponent.natAbs)
  else if exponent ≤ 308 then
    let g := f * powerOfTen exponent.natAbs
    if g.isInf then none else some g
  else if f == 0.0 then some f
  else none

/-- The largest exponent that is looked at. -/
def exponentBound : Nat := Nat.pow 2 31

/-- The value of the digits of an exponent, unless it leaves 32 bits. -/
def exponentValue? (digits : List Nat) : Option Nat :=
  let n := digits.foldl (fun n d => min exponentBound (10 * n + d)) 0
  if n < exponentBound then some n else none

def clamp (n : Int) : Int := max (-(exponentBound : Int)) (min (exponentBound - 1) n)

/-- The double of a literal. -/
def real (l : Literal) : Option Double :=
  let s := Significand.take ⟨0, 0, false⟩ l.whole
  let (value, taken) := match l.fraction with
    | some ds => Significand.takeFraction s.value ds
    | none => (s.value, 0)
  let before : Int := s.dropped - taken
  let magnitude := match l.exponent with
    | none => scale value before
    | some (up, ds) =>
      match exponentValue? ds with
      | some n => scale value (clamp (if up then before + n else before - n))
      | none => if value ≠ 0 ∧ up then none else some 0.0
  magnitude.map fun f => if l.negative then (Double.ofFloat f).neg else Double.ofFloat f

/-- The number of a literal; `none` if it is too large for a double. -/
def number (l : Literal) : Option Number :=
  let s := Significand.take ⟨0, 0, false⟩ l.whole
  if l.fraction.isNone ∧ l.exponent.isNone ∧ !s.full then
    if !l.negative then some (.whole s.value)
    else if s.value ≠ 0 ∧ s.value ≤ Nat.pow 2 63 then some (.whole (-s.value))
    else l.real.map .real
  else l.real.map .real

end Literal

end LeaseRoutes.Json
