import LeaseRoutes.Json.Literal
import Mathlib.Algebra.Group.Int.Defs
import Mathlib.Data.List.Forall2

namespace LeaseRoutes.Json

/-- The whole numbers of 64 bits, with a sign or without. -/
def Fits (n : Int) : Prop := -2 ^ 63 ≤ n ∧ n < 2 ^ 64

/-! ## Digits -/

/-- A run of decimal digits and their values. -/
def Digits (ds : List Nat) (cs : List Char) : Prop :=
  List.Forall₂ (fun d c => Text.decDigit? c = some d) ds cs

/-- Digits are taken up to the first character that is none. -/
theorem Digits.take {ds : List Nat} {cs rest : List Char} (h : Digits ds cs)
    (stop : ∀ c ∈ rest.head?, Text.decDigit? c = none) : takeDigits (cs ++ rest) = (ds, rest) := by
  induction h with
  | nil =>
    cases rest with
    | nil => rfl
    | cons c rest => simp only [List.nil_append, takeDigits, stop c rfl]
  | cons digit _ ih => simp only [List.cons_append, takeDigits, digit, ih]

/-- The values of the decimal digits of a number, the most significant first. -/
def digitValues (n : Nat) : List Nat :=
  if n < 10 then [n] else digitValues (n / 10) ++ [n % 10]
termination_by n

theorem decDigit?_digitChar {d : Nat} (h : d < 10) : Text.decDigit? d.digitChar = some d := by
  have all : ∀ e : Fin 10, Text.decDigit? (Nat.digitChar e) = some e.val := by decide
  exact all ⟨d, h⟩

theorem digits_digitValues (n : Nat) : Digits (digitValues n) (Text.digits n) := by
  fun_induction digitValues n with
  | case1 n low =>
    rw [Text.digits, Nat.toDigits_of_lt_base low]
    exact .cons (decDigit?_digitChar low) .nil
  | case2 n high ih =>
    rw [Text.digits, Nat.toDigits_of_base_le (by decide) (Nat.le_of_not_lt high)]
    exact List.rel_append ih (.cons (decDigit?_digitChar (Nat.mod_lt n (by decide))) .nil)

/-- There is a first digit, and no other number than zero begins with the digit zero. -/
theorem digitValues_head (n : Nat) :
    ∃ d ds, digitValues n = d :: ds ∧ (d = 0 → n = 0 ∧ ds = []) := by
  fun_induction digitValues n with
  | case1 n low => exact ⟨n, [], rfl, fun zero => ⟨zero, rfl⟩⟩
  | case2 n high ih =>
    obtain ⟨d, ds, leading, zero⟩ := ih
    refine ⟨d, ds ++ [n % 10], by rw [leading, List.cons_append], fun none => ?_⟩
    have small : n / 10 = 0 := (zero none).1
    omega

/-! ## The grammar -/

/-- A point and at least one digit, or nothing. -/
inductive Fraction : Option (List Nat) → List Char → Prop
  | absent : Fraction none []
  | point {d : Nat} {ds : List Nat} {cs : List Char} (digits : Digits (d :: ds) cs) :
      Fraction (some (d :: ds)) ('.' :: cs)

/-- A mark, a sign or none, and at least one digit, or nothing. -/
inductive Exponent : Option (Bool × List Nat) → List Char → Prop
  | absent : Exponent none []
  | unsigned {e : Char} {d : Nat} {ds : List Nat} {cs : List Char} (mark : e = 'e' ∨ e = 'E')
      (digits : Digits (d :: ds) cs) : Exponent (some (true, d :: ds)) (e :: cs)
  | plus {e : Char} {d : Nat} {ds : List Nat} {cs : List Char} (mark : e = 'e' ∨ e = 'E')
      (digits : Digits (d :: ds) cs) : Exponent (some (true, d :: ds)) (e :: '+' :: cs)
  | minus {e : Char} {d : Nat} {ds : List Nat} {cs : List Char} (mark : e = 'e' ∨ e = 'E')
      (digits : Digits (d :: ds) cs) : Exponent (some (false, d :: ds)) (e :: '-' :: cs)

def sign (negative : Bool) : List Char := if negative then ['-'] else []

/-- A number as JSON writes it. Several digits before the point do not begin with zero. -/
inductive Numeral : Literal → List Char → Prop
  | parts {negative : Bool} {d : Nat} {ds : List Nat} {fraction : Option (List Nat)}
      {exponent : Option (Bool × List Nat)} {ws fs es : List Char} (whole : Digits (d :: ds) ws)
      (leading : d = 0 → ds = []) (behind : Fraction fraction fs)
      (scaled : Exponent exponent es) :
      Numeral ⟨negative, d :: ds, fraction, exponent⟩ (sign negative ++ (ws ++ (fs ++ es)))

/-! ## The reader -/

namespace Literal

/-- No literal goes on with this text: it begins with no digit, no point and no exponent. -/
def Ends (rest : List Char) : Prop :=
  ∀ c ∈ rest.head?, Text.decDigit? c = none ∧ c ≠ '.' ∧ c ≠ 'e' ∧ c ≠ 'E'

theorem ends_cons {c : Char} (h : Text.decDigit? c = none ∧ c ≠ '.' ∧ c ≠ 'e' ∧ c ≠ 'E')
    (rest : List Char) : Ends (c :: rest) := by
  intro d first
  cases first
  exact h

end Literal

open Literal

theorem Digits.head {d : Nat} {ds : List Nat} {cs : List Char} (h : Digits (d :: ds) cs) :
    ∃ c tail, cs = c :: tail ∧ Text.decDigit? c = some d := by
  cases h with
  | cons digit _ => exact ⟨_, _, rfl, digit⟩

section

variable {rest : List Char}

theorem Exponent.head {exponent : Option (Bool × List Nat)} {es : List Char}
    (h : Exponent exponent es) (ends : Ends rest) :
    ∀ c ∈ (es ++ rest).head?, Text.decDigit? c = none ∧ c ≠ '.' := by
  have marks {e : Char} (mark : e = 'e' ∨ e = 'E') : Text.decDigit? e = none ∧ e ≠ '.' := by
    rcases mark with rfl | rfl <;> decide
  cases h with
  | absent => exact fun c first => ⟨(ends c first).1, (ends c first).2.1⟩
  | unsigned mark | plus mark | minus mark =>
    rintro _ ⟨⟩
    exact marks mark

theorem Fraction.head {fraction : Option (List Nat)} {fs : List Char} (h : Fraction fraction fs)
    (stop : ∀ c ∈ rest.head?, Text.decDigit? c = none ∧ c ≠ '.') :
    ∀ c ∈ (fs ++ rest).head?, Text.decDigit? c = none := by
  cases h with
  | absent => exact fun c first => (stop c first).1
  | point =>
    rintro _ ⟨⟩
    decide

theorem Fraction.read {fraction : Option (List Nat)} {fs : List Char} (h : Fraction fraction fs)
    (stop : ∀ c ∈ rest.head?, Text.decDigit? c = none ∧ c ≠ '.') :
    fractionAt (fs ++ rest) = some (fraction, rest) := by
  cases h with
  | absent =>
    rw [List.nil_append]
    unfold fractionAt
    split
    · exact absurd rfl (stop _ rfl).2
    · rfl
  | point digits =>
    simp only [List.cons_append, fractionAt, digits.take fun c first => (stop c first).1]

theorem Exponent.read {exponent : Option (Bool × List Nat)} {es : List Char}
    (h : Exponent exponent es) (ends : Ends rest) :
    exponentAt (es ++ rest) = some (exponent, rest) := by
  have stop : ∀ c ∈ rest.head?, Text.decDigit? c = none := fun c first => (ends c first).1
  cases h with
  | absent =>
    cases rest with
    | nil => rfl
    | cons c rest => simp [exponentAt, (ends c rfl).2.2]
  | unsigned mark digits =>
    obtain ⟨c, tail, rfl, digit⟩ := digits.head
    have taken := digits.take stop
    rw [List.cons_append] at taken
    rw [List.cons_append, List.cons_append, exponentAt, if_pos mark, taken]
    all_goals
      rintro _ ⟨⟩
      cases digit
  | plus mark digits | minus mark digits =>
    simp only [List.cons_append, exponentAt, mark, ↓reduceIte, digits.take stop]

/-- A number is read to its end. -/
theorem Numeral.read {l : Literal} {cs : List Char} (h : Numeral l cs) (ends : Ends rest) :
    Literal.read (cs ++ rest) = some (l, rest) := by
  cases h with
  | @parts negative d ds fraction exponent ws fs es whole leading behind scaled =>
    have taken := whole.take (behind.head (scaled.head ends))
    have split : sign negative ++ (ws ++ (fs ++ es)) ++ rest =
        sign negative ++ (ws ++ (fs ++ (es ++ rest))) := by simp only [List.append_assoc]
    rw [split]
    unfold Literal.read
    split
    next minus tail signed =>
      have unsigned : minus = negative ∧ tail = ws ++ (fs ++ (es ++ rest)) := by
        cases negative with
        | true =>
          cases signed
          exact ⟨rfl, rfl⟩
        | false =>
          obtain ⟨c, ws, rfl, digit⟩ := whole.head
          simp only [sign, Bool.false_eq_true, ↓reduceIte, List.nil_append] at signed
          split at signed
          · next same =>
            cases same
            cases digit
          · cases signed
            exact ⟨rfl, rfl⟩
      obtain ⟨rfl, rfl⟩ := unsigned
      rw [taken]
      split
      · next none => cases none
      · next two =>
        cases two
        cases leading rfl
      · next digits =>
        cases digits
        simp only [behind.read (scaled.head ends), scaled.read ends, Option.bind_eq_bind,
          Option.bind_some, Option.pure_def]

end

/-- A number begins with a sign or a digit. -/
theorem Numeral.first {l : Literal} {cs : List Char} (h : Numeral l cs) :
    ∃ c tail, cs = c :: tail ∧ (c = '-' ∨ (Text.decDigit? c).isSome) := by
  cases h with
  | @parts negative _ _ _ _ _ _ _ whole =>
    obtain ⟨c, tail, rfl, digit⟩ := whole.head
    cases negative with
    | true => exact ⟨'-', _, rfl, .inl rfl⟩
    | false => exact ⟨c, _, rfl, .inr (Option.isSome_of_eq_some digit)⟩

/-! ## Whole numbers -/

namespace Literal

theorem Significand.take_append (s : Significand) (as bs : List Nat) :
    s.take (as ++ bs) = (s.take as).take bs :=
  List.foldl_append

/-- No digit is dropped of a number that fits a word. -/
theorem Significand.take_digitValues {n : Nat} (fits : n < Text.word64) :
    Significand.take ⟨0, 0, false⟩ (digitValues n) = ⟨n, 0, false⟩ := by
  fun_induction digitValues n with
  | case1 n low => simpa [Significand.take] using fits
  | case2 n high ih =>
    have value : 10 * (n / 10) + n % 10 = n := Nat.div_add_mod n 10
    have small : ¬Text.word64 ≤ n := Nat.not_le.2 fits
    rw [take_append, ih (by omega)]
    simp [Significand.take, value, small]

theorem number_positive {n : Nat} (fits : n < Text.word64) :
    number ⟨false, digitValues n, none, none⟩ = some (.whole n) := by
  simp [number, Significand.take_digitValues fits]

theorem number_negative {n : Nat} (positive : 0 < n) (fits : n ≤ Nat.pow 2 63) :
    number ⟨true, digitValues n, none, none⟩ = some (.whole (-n)) := by
  have word : n < Text.word64 := Nat.lt_of_le_of_lt fits (by decide)
  simp [number, Significand.take_digitValues word, Nat.ne_of_gt positive, fits]

end Literal

theorem numeral_digits (negative : Bool) (n : Nat) :
    Numeral ⟨negative, digitValues n, none, none⟩ (sign negative ++ Text.digits n) := by
  have digits := digits_digitValues n
  obtain ⟨d, ds, shape, zero⟩ := digitValues_head n
  rw [shape] at digits ⊢
  have numeral : Numeral ⟨negative, d :: ds, none, none⟩ _ :=
    .parts digits (fun none => (zero none).2) .absent .absent
  rwa [List.append_nil, List.append_nil] at numeral

/-- The text of a number of 64 bits is a literal of that number. -/
theorem numeral_signed {n : Int} (fits : Fits n) :
    ∃ l, Numeral l (Text.signed n).toList ∧ l.number = some (.whole n) := by
  obtain ⟨above, below⟩ := fits
  cases n with
  | ofNat n =>
    have small : n < Text.word64 := by
      have size : Text.word64 = 2 ^ 64 := rfl
      have natural : (n : Int) < 2 ^ 64 := below
      omega
    refine ⟨_, ?_, number_positive small⟩
    rw [Text.signed, Text.decimal, String.toList_ofList]
    exact numeral_digits false n
  | negSucc n =>
    have small : n + 1 ≤ Nat.pow 2 63 := by
      have size : Nat.pow 2 63 = 2 ^ 63 := rfl
      omega
    refine ⟨_, ?_, number_negative (Nat.succ_pos n) small⟩
    rw [Text.signed, Text.decimal, String.toList_append, String.toList_ofList,
      String.toList_ofList]
    exact numeral_digits true (n + 1)

end LeaseRoutes.Json
