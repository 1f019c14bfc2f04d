import LeaseRoutes.Text.Class
import LeaseRoutes.Text.Decimal
import Mathlib.Data.List.TakeWhile

namespace LeaseRoutes.Text

/-! ## Trimming -/

/-- Only characters of white space. -/
def AllBlank (cs : List Char) : Prop := ∀ c ∈ cs, isBlank c = true

theorem trim_append {before after : List Char} (h : AllBlank before) (k : AllBlank after)
    (cs : List Char) : trim (before ++ cs ++ after) = trim cs := by
  have tail : AllBlank after.reverse := fun c member => k c (List.mem_reverse.1 member)
  rw [trim, List.append_assoc, List.dropWhile_append_of_pos h, List.dropWhile_append]
  split
  · next none =>
    have gone : after.dropWhile isBlank = [] := List.dropWhile_eq_nil_iff.2 k
    rw [gone, trim, List.isEmpty_iff.1 none]
  · rw [List.reverse_append, List.dropWhile_append_of_pos tail, trim]

theorem trim_of_noBlank {cs : List Char} (h : ∀ c ∈ cs, isBlank c = false) : trim cs = cs := by
  have kept (ds : List Char) (same : ∀ c ∈ ds, c ∈ cs) : ds.dropWhile isBlank = ds := by
    cases ds with
    | nil => rfl
    | cons c ds =>
      have first := h c (same c List.mem_cons_self)
      exact List.dropWhile_cons_of_neg (by simp [first])
  rw [trim, kept cs fun _ => id, kept cs.reverse fun _ => List.mem_reverse.1, List.reverse_reverse]

/-- Trimming takes off nothing but blank characters. -/
theorem exists_append_trim (cs : List Char) :
    ∃ before after, AllBlank before ∧ AllBlank after ∧ cs = before ++ trim cs ++ after := by
  let rest := cs.dropWhile isBlank
  have taken (ds : List Char) : AllBlank (ds.takeWhile isBlank) :=
    fun c member => List.all_eq_true.1 List.all_takeWhile c member
  refine ⟨cs.takeWhile isBlank, (rest.reverse.takeWhile isBlank).reverse, taken cs, ?_, ?_⟩
  · exact fun c member => taken rest.reverse c (List.mem_reverse.1 member)
  · have back : trim cs ++ (rest.reverse.takeWhile isBlank).reverse = rest := by
      rw [trim, ← List.reverse_append, List.takeWhile_append_dropWhile, List.reverse_reverse]
    rw [List.append_assoc, back, List.takeWhile_append_dropWhile]

/-! ## Digits and their value -/

theorem decDigit?_eq (c : Char) :
    decDigit? c = if c.isDigit then some (c.toNat - '0'.toNat) else none := by
  simp only [decDigit?, Char.isDigit, Char.le_def, Bool.and_eq_true, decide_eq_true_eq, ge_iff_le]

theorem isDigit_of_mem_digits {c : Char} {n : Nat} (h : c ∈ digits n) : c.isDigit = true :=
  Nat.isDigit_of_mem_toDigits (by decide) (by decide) h

theorem digits_ne_nil (n : Nat) : digits n ≠ [] := Nat.toDigits_ne_nil

/-- The digits of a number behind some zeros. -/
def padded (zeros n : Nat) : List Char := List.replicate zeros '0' ++ digits n

theorem padded_ne_nil (zeros n : Nat) : padded zeros n ≠ [] := by simp [padded, digits_ne_nil]

theorem isDigit_of_mem_padded {c : Char} {zeros n : Nat} (h : c ∈ padded zeros n) :
    c.isDigit = true := by
  rcases List.mem_append.1 h with zero | digit
  · rw [List.eq_of_mem_replicate zero]
    rfl
  · exact isDigit_of_mem_digits digit

theorem ofDigitChars_padded (zeros n : Nat) : Nat.ofDigitChars 10 (padded zeros n) 0 = n := by
  induction zeros with
  | zero => exact Nat.ofDigitChars_ten_toDigits
  | succ zeros ih => exact ih

theorem le_ofDigitChars (high : Nat) (cs : List Char) : high ≤ Nat.ofDigitChars 10 cs high := by
  induction cs generalizing high with
  | nil => exact Nat.le_refl high
  | cons c cs ih =>
    rw [Nat.ofDigitChars_cons]
    exact Nat.le_trans (by omega) (ih _)

theorem toNat_of_isDigit {c : Char} (h : c.isDigit = true) : 48 ≤ c.toNat ∧ c.toNat ≤ 57 := by
  simpa [Char.isDigit, Char.le_def, UInt32.le_iff_toNat_le] using h

theorem isBlank_of_isDigit {c : Char} (h : c.isDigit = true) : isBlank c = false := by
  obtain ⟨low, high⟩ := toNat_of_isDigit h
  simp only [isBlank, Bool.or_eq_false_iff, Bool.and_eq_false_iff, decide_eq_false_iff_not,
    beq_eq_false_iff_ne, ne_eq]
  omega

/-- A digit alone is the numeral of its value. -/
theorem digits_value {c : Char} (h : c.isDigit = true) :
    c.toNat - '0'.toNat < 10 ∧ digits (c.toNat - '0'.toNat) = [c] := by
  obtain ⟨low, high⟩ := toNat_of_isDigit h
  have small : c.toNat - 48 < 10 := by omega
  have char : (c.toNat - 48).digitChar = c := by
    rw [← Char.toNat_inj, Nat.toNat_digitChar_of_lt_ten small]
    omega
  refine ⟨small, ?_⟩
  change Nat.toDigits 10 (c.toNat - 48) = [c]
  rw [Nat.toDigits_of_lt_base small, char]

/-- The digits behind a positive number continue its digits. -/
theorem digits_append {high : Nat} (positive : 0 < high) {cs : List Char}
    (h : ∀ c ∈ cs, c.isDigit = true) :
    digits high ++ cs = digits (Nat.ofDigitChars 10 cs high) := by
  induction cs generalizing high with
  | nil => rw [List.append_nil, Nat.ofDigitChars_nil]
  | cons c cs ih =>
    obtain ⟨digit, others⟩ := List.forall_mem_cons.1 h
    obtain ⟨small, single⟩ := digits_value digit
    have one : digits high ++ [c] = digits (10 * high + (c.toNat - '0'.toNat)) := by
      rw [← single]
      exact Nat.toDigits_append_toDigits (by decide) positive small
    rw [Nat.ofDigitChars_cons, ← ih (by omega) others, ← one, List.append_assoc,
      List.singleton_append]

/-- Digits are those of their value behind zeros. -/
theorem exists_eq_padded {cs : List Char} (h : ∀ c ∈ cs, c.isDigit = true)
    (inhabited : cs ≠ []) : ∃ zeros, cs = padded zeros (Nat.ofDigitChars 10 cs 0) := by
  induction cs with
  | nil => exact absurd rfl inhabited
  | cons c cs ih =>
    obtain ⟨digit, others⟩ := List.forall_mem_cons.1 h
    obtain ⟨small, single⟩ := digits_value digit
    by_cases zero : c = '0'
    · subst zero
      by_cases last : cs = []
      · exact ⟨0, by rw [last]; rfl⟩
      · obtain ⟨zeros, shape⟩ := ih others last
        exact ⟨zeros + 1, congrArg (List.cons '0') shape⟩
    · have positive : 0 < c.toNat - '0'.toNat := by
        refine Nat.pos_of_ne_zero fun none => zero ?_
        rw [none] at single
        exact (List.cons.inj single).1.symm
      refine ⟨0, ?_⟩
      rw [Nat.ofDigitChars_cons, Nat.mul_zero, Nat.zero_add, padded,
        ← digits_append positive others, single]
      rfl

/-! ## Numerals -/

/-- A text for a number: zeros and the digits, and at most one plus sign before them. -/
inductive Spells (n : Nat) : List Char → Prop
  | plain (zeros : Nat) : Spells n (padded zeros n)
  | signed (zeros : Nat) : Spells n ('+' :: padded zeros n)

/-- Digits are read if the number they continue `high` to is below the bound. -/
theorem boundedFrom_eq_ok_iff {bound high n : Nat} {cs : List Char}
    (small : cs = [] → high < bound) : boundedFrom bound high cs = .ok n ↔
      (∀ c ∈ cs, c.isDigit = true) ∧ Nat.ofDigitChars 10 cs high = n ∧ n < bound := by
  induction cs generalizing high with
  | nil =>
    rw [boundedFrom, Except.ok.injEq, Nat.ofDigitChars_nil]
    constructor
    · rintro rfl
      exact ⟨nofun, rfl, small rfl⟩
    · exact fun h => h.2.1
  | cons c cs ih =>
    rw [boundedFrom, decDigit?_eq, List.forall_mem_cons, Nat.ofDigitChars_cons]
    by_cases digit : c.isDigit = true
    · rw [if_pos digit]
      by_cases below : 10 * high + (c.toNat - '0'.toNat) < bound
      · simp only [if_pos below, ih fun _ => below, digit, true_and]
      · simp only [if_neg below, reduceCtorEq, false_iff]
        rintro ⟨-, rfl, fits⟩
        exact below (Nat.lt_of_le_of_lt (le_ofDigitChars _ cs) fits)
    · rw [if_neg digit]
      exact ⟨nofun, fun h => absurd h.1.1 digit⟩

theorem boundedFrom_zero_eq_ok_iff {bound n : Nat} {cs : List Char} (inhabited : cs ≠ []) :
    boundedFrom bound 0 cs = .ok n ↔ (∃ zeros, cs = padded zeros n) ∧ n < bound := by
  rw [boundedFrom_eq_ok_iff fun none => absurd none inhabited, ← and_assoc]
  refine and_congr_left fun _ => ⟨?_, ?_⟩
  · rintro ⟨all, rfl⟩
    exact exists_eq_padded all inhabited
  · rintro ⟨zeros, rfl⟩
    exact ⟨fun c => isDigit_of_mem_padded, ofDigitChars_padded zeros n⟩

/-- What is left of a numeral without its sign has the shape of digits behind zeros. -/
theorem spells_iff {n : Nat} {cs : List Char} :
    Spells n cs ↔ ∃ zeros, unsigned cs = padded zeros n := by
  have noSign (zeros : Nat) : '+' ∉ padded zeros n :=
    fun member => absurd (isDigit_of_mem_padded member) (by decide)
  constructor
  · rintro (zeros | zeros)
    · refine ⟨zeros, ?_⟩
      unfold unsigned
      split
      · next same => exact absurd (same ▸ List.mem_cons_self) (noSign zeros)
      · rfl
    · obtain ⟨c, rest, shape⟩ := List.exists_cons_of_ne_nil (padded_ne_nil zeros n)
      refine ⟨zeros, ?_⟩
      rw [shape]
      rfl
  · rintro ⟨zeros, shape⟩
    unfold unsigned at shape
    split at shape
    · rw [shape]
      exact .signed zeros
    · rw [shape]
      exact .plain zeros

theorem unsigned_ne_nil {cs : List Char} (inhabited : cs ≠ []) : unsigned cs ≠ [] := by
  unfold unsigned
  split
  · exact nofun
  · exact inhabited

/-- The numbers that are read are those below the bound, from any of their numerals. -/
theorem bounded_eq_ok_iff {bound n : Nat} {cs : List Char} :
    bounded bound cs = .ok n ↔ Spells n cs ∧ n < bound := by
  rw [spells_iff]
  by_cases empty : cs = []
  · subst empty
    refine ⟨nofun, ?_⟩
    rintro ⟨⟨zeros, shape⟩, -⟩
    exact absurd shape.symm (padded_ne_nil zeros n)
  · rw [bounded, if_neg (by simp [empty]), boundedFrom_zero_eq_ok_iff (unsigned_ne_nil empty)]

theorem Spells.isDigit {n : Nat} {cs : List Char} (h : Spells n cs) :
    ∀ c ∈ cs, c = '+' ∨ c.isDigit = true := by
  cases h with
  | plain => exact fun c member => .inr (isDigit_of_mem_padded member)
  | signed => exact fun c member => (List.mem_cons.1 member).imp id isDigit_of_mem_padded

/-- A numeral has no blank characters, so trimming leaves nothing but the numeral. -/
theorem Spells.trim_append {n : Nat} {cs before after : List Char} (h : Spells n cs)
    (blank : AllBlank before) (blank' : AllBlank after) :
    trim (before ++ cs ++ after) = cs := by
  rw [Text.trim_append blank blank']
  refine trim_of_noBlank fun c member => ?_
  rcases h.isDigit c member with rfl | digit
  · rfl
  · exact isBlank_of_isDigit digit

end LeaseRoutes.Text
