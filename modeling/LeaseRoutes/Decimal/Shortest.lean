/-!
The shortest decimal of a double. A positive double is `m · 2^q`; the reals that round to it form
an interval around it, ends included when `m` is even. Among the decimals in that interval those
with the fewest digits are looked at, and of them the one nearest to the double is taken. Two may
lie equally near; which of them is taken is for the text to say.
-/

namespace LeaseRoutes

/-- The value `coefficient · 10^exponent`. -/
structure Decimal where
  coefficient : Nat
  exponent : Int
  deriving DecidableEq, Repr

namespace Decimal

/-- A positive fraction, which need not be reduced. -/
structure Ratio where
  num : Nat
  den : Nat

/-- The fraction `n · 2^twos · 10^tens`. -/
def Ratio.scaled (n : Nat) (twos tens : Int) : Ratio :=
  ⟨n * Nat.pow 2 twos.toNat * Nat.pow 10 tens.toNat,
    Nat.pow 2 (-twos).toNat * Nat.pow 10 (-tens).toNat⟩

/-- The greatest `p` with `10^p` at most the fraction. -/
def Ratio.magnitude (r : Ratio) : Int :=
  if r.den ≤ r.num then (Nat.toDigits 10 (r.num / r.den)).length - 1
  else -(Nat.toDigits 10 ((r.den + r.num - 1) / r.num - 1)).length

/-- The reals that round to one double, in units of `2^unit`. -/
structure Interval where
  low : Nat
  mid : Nat
  high : Nat
  unit : Int
  closed : Bool

/-- The neighbours of a double lie one unit of its last place away, half a unit below a power
of two. -/
def Interval.around (mantissa : Nat) (exponent : Int) (halfBelow : Bool) : Interval where
  low := 4 * mantissa - (if halfBelow then 1 else 2)
  mid := 4 * mantissa
  high := 4 * mantissa + 2
  unit := exponent - 2
  closed := mantissa % 2 == 0

/-- Whether the point `c · 10^step` lies in the interval. -/
def Interval.holds (i : Interval) (step : Int) (c : Nat) : Bool :=
  let low := Ratio.scaled i.low i.unit (-step)
  let high := Ratio.scaled i.high i.unit (-step)
  if i.closed then low.num ≤ c * low.den && c * high.den ≤ high.num
  else low.num < c * low.den && c * high.den < high.num

/-- Which of two decimals is taken that lie equally near. -/
inductive Tie
  | even
  | up
  deriving DecidableEq, Repr

def Tie.goesUp (t : Tie) (below : Nat) : Bool :=
  match t with
  | .even => below % 2 == 1
  | .up => true

/-- The point of the grid `10^step` nearest to the middle among the two beside it that lie in the
interval. -/
def Interval.nearest? (i : Interval) (tie : Tie) (step : Int) : Option Nat :=
  let r := Ratio.scaled i.mid i.unit (-step)
  let c := r.num / r.den
  let below := 2 * (r.num % r.den)
  match i.holds step c, i.holds step (c + 1) with
  | true, true =>
    some (if r.den < below || (below == r.den && tie.goesUp c) then c + 1 else c)
  | true, false => some c
  | false, true => some (c + 1)
  | false, false => none

/-- Tries grids of more and more digits. -/
def Interval.search (i : Interval) (tie : Tie) (magnitude : Int) : Nat → Nat → Decimal
  | 0, n => ⟨(i.nearest? tie (magnitude - n + 1)).getD 0, magnitude - n + 1⟩
  | more + 1, n =>
    match i.nearest? tie (magnitude - n + 1) with
    | some c => ⟨c, magnitude - n + 1⟩
    | none => i.search tie magnitude more (n + 1)

/-- Moves trailing zeros of the coefficient into the exponent. -/
def reduce (d : Decimal) : Nat → Decimal
  | 0 => d
  | fuel + 1 =>
    if d.coefficient ≠ 0 ∧ d.coefficient % 10 = 0 then
      reduce ⟨d.coefficient / 10, d.exponent + 1⟩ fuel
    else d

/-- The shortest decimal of the positive double `mantissa · 2^exponent`. Seventeen digits always
suffice. -/
def shortest (mantissa : Nat) (exponent : Int) (halfBelow : Bool) (tie : Tie) : Decimal :=
  let i := Interval.around mantissa exponent halfBelow
  (i.search tie (Ratio.scaled i.mid i.unit 0).magnitude 16 1).reduce 20

end Decimal

end LeaseRoutes
