import LeaseRoutes.Decimal.Shortest
import LeaseRoutes.Text.Decimal
/-!
Numbers of binary64, kept as their bits, and their decimal texts. Both texts show the shortest
decimal. `Double.compact` always has a point or an exponent, positional between `10^-5` and
`10^16`; `Double.plain` is always positional and shows a whole number without a point.
-/

namespace LeaseRoutes

structure Double where
  bits : UInt64
  deriving DecidableEq, Repr

namespace Double

def ofFloat (f : Float) : Double := ⟨f.toBits⟩

def toFloat (d : Double) : Float := Float.ofBits d.bits

/-- The double nearest to a word. -/
def ofWord (n : UInt64) : Double := ofFloat n.toFloat

def neg (d : Double) : Double := ⟨d.bits ^^^ 0x8000000000000000⟩

def add (a b : Double) : Double := ofFloat (a.toFloat + b.toFloat)

/-- Comparison by value; nothing is below or above a NaN. -/
def le (a b : Double) : Bool := a.toFloat ≤ b.toFloat

def zero : Double := ⟨0⟩

/-- The sign, the field of the exponent and the field of the fraction. -/
def fields (d : Double) : Bool × Nat × Nat :=
  let n := d.bits.toNat
  (n / Nat.pow 2 63 == 1, n / Nat.pow 2 52 % Nat.pow 2 11, n % Nat.pow 2 52)

def isFinite (d : Double) : Bool := d.fields.2.1 != 2047

def isInfinite (d : Double) : Bool := d.fields.2.1 == 2047 && d.fields.2.2 == 0

def isZero (d : Double) : Bool := d.fields.2.1 == 0 && d.fields.2.2 == 0

def isNegative (d : Double) : Bool := d.fields.1

/-- The shortest decimal of the absolute value of a finite double other than zero. -/
def shortest (d : Double) (tie : Decimal.Tie) : Decimal :=
  let (_, e, f) := d.fields
  if e = 0 then Decimal.shortest f (-1074) false tie
  else Decimal.shortest (Nat.pow 2 52 + f) (e - 1075) (f == 0 && e != 1) tie

/-- Puts a point after the first `point` characters. -/
def withPoint (digits : List Char) (point : Nat) : List Char :=
  digits.take point ++ '.' :: digits.drop point

def zeros (n : Nat) : List Char := List.replicate n '0'

/-- The text of a positive decimal, `point` being the number of digits before the point. -/
def compactDigits (digits : List Char) (exponent : Int) : List Char :=
  let point : Int := digits.length + exponent
  if 0 ≤ exponent ∧ point ≤ 16 then digits ++ zeros exponent.toNat ++ ['.', '0']
  else if 0 < point ∧ point ≤ 16 then withPoint digits point.toNat
  else if -5 < point ∧ point ≤ 0 then '0' :: '.' :: zeros (-point).toNat ++ digits
  else
    let sign := if 0 < point then ['+'] else []
    (if digits.length = 1 then digits else withPoint digits 1) ++
      'e' :: sign ++ (Text.signed (point - 1)).toList

/-- The text in JSON. A tie goes to the even digit. -/
def compact (d : Double) : String :=
  let sign := if d.isNegative then "-" else ""
  if d.isZero then sign ++ "0.0"
  else
    let s := d.shortest .even
    sign ++ String.ofList (compactDigits (Text.digits s.coefficient) s.exponent)

/-- Digits and point only. -/
def plainDigits (digits : List Char) (exponent : Int) : List Char :=
  let point : Int := digits.length + exponent
  if 0 ≤ exponent then digits ++ zeros exponent.toNat
  else if 0 < point then withPoint digits point.toNat
  else '0' :: '.' :: zeros (-point).toNat ++ digits

/-- The text in an exposition of metrics. A tie goes up. -/
def plain (d : Double) : String :=
  let sign := if d.isNegative then "-" else ""
  if d.isInfinite then sign ++ "inf"
  else if !d.isFinite then "NaN"
  else if d.isZero then sign ++ "0"
  else
    let s := d.shortest .up
    sign ++ String.ofList (plainDigits (Text.digits s.coefficient) s.exponent)

end Double

end LeaseRoutes
