import LeaseRoutes.Text.Hex

namespace LeaseRoutes.Text

/-- The value of a decimal digit. -/
def decDigit? (c : Char) : Option Nat :=
  if '0' ≤ c ∧ c ≤ '9' then some (c.toNat - '0'.toNat) else none

/-- The digits of a number, the most significant first. -/
def digits (n : Nat) : List Char := Nat.toDigits 10 n

theorem notMem_digits {c : Char} (h : c.isDigit = false) (n : Nat) : c ∉ digits n := by
  intro member
  have digit := Nat.isDigit_of_mem_toDigits (by decide) (by decide) member
  rw [h] at digit
  cases digit

/-- A number in decimal. -/
def decimal (n : Nat) : String := String.ofList (digits n)

/-- A signed number in decimal. -/
def signed : Int → String
  | .ofNat n => decimal n
  | .negSucc n => "-" ++ decimal (n + 1)

/-- Why a text is not a bounded number. -/
inductive NumeralFault
  | empty
  | badDigit
  | tooLarge
  deriving DecidableEq, Repr

def NumeralFault.message : NumeralFault → String
  | .empty => "cannot parse integer from empty string"
  | .badDigit => "invalid digit found in string"
  | .tooLarge => "number too large to fit in target type"

/-- Reads the digits that follow a number `high`. The digit that leaves the bound is reported
even if a character that is no digit follows it. -/
def boundedFrom (bound high : Nat) : List Char → Except NumeralFault Nat
  | [] => .ok high
  | c :: rest =>
    match decDigit? c with
    | none => .error .badDigit
    | some d =>
      if 10 * high + d < bound then boundedFrom bound (10 * high + d) rest else .error .tooLarge

/-- Reads a number below `bound`. -/
def bounded (bound : Nat) (cs : List Char) : Except NumeralFault Nat :=
  if cs.isEmpty then .error .empty else boundedFrom bound 0 (unsigned cs)

/-- The numbers of 64 bits. -/
def word64 : Nat := UInt64.size

end LeaseRoutes.Text
