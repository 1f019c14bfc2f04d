namespace LeaseRoutes.Text

/-- The value of a hexadecimal digit. -/
def hexDigit? (c : Char) : Option Nat :=
  if '0' ≤ c ∧ c ≤ '9' then some (c.toNat - '0'.toNat)
  else if 'a' ≤ c ∧ c ≤ 'f' then some (c.toNat - 'a'.toNat + 10)
  else if 'A' ≤ c ∧ c ≤ 'F' then some (c.toNat - 'A'.toNat + 10)
  else none

/-- The lower-case digit of a value below sixteen. -/
def hexDigit (n : Nat) : Char :=
  if n < 10 then Char.ofNat ('0'.toNat + n) else Char.ofNat ('a'.toNat + (n - 10))

/-- The value of a run of digits, the most significant first, added below `high`. -/
def hexNat? (high : Nat) : List Char → Option Nat
  | [] => some high
  | c :: rest =>
    match hexDigit? c with
    | some d => hexNat? (16 * high + d) rest
    | none => none

/-- The unsigned part of a numeral: one plus sign may stand before the digits. -/
def unsigned : List Char → List Char
  | '+' :: c :: rest => c :: rest
  | cs => cs

/-- Reads a byte. Nothing at all, or a sign alone, is no numeral. -/
def hexByte? (cs : List Char) : Option UInt8 :=
  if cs.isEmpty then none
  else match hexNat? 0 (unsigned cs) with
    | some n => if n < 256 then some (UInt8.ofNat n) else none
    | none => none

/-- The two digits of a byte, the high half first. -/
def hexByte (b : UInt8) : List Char :=
  [hexDigit (b.toNat / 16), hexDigit (b.toNat % 16)]

/-- The digits of a number without leading zeros; zero keeps one. -/
def hexDigits (n : Nat) : List Char :=
  if n < 16 then [hexDigit n] else hexDigits (n / 16) ++ [hexDigit (n % 16)]
termination_by n

theorem hexDigit?_lt {c : Char} {n : Nat} (h : hexDigit? c = some n) : n < 16 := by
  have nine : '9'.toNat = 57 := rfl
  have lower : 'f'.toNat = 102 := rfl
  have upper : 'F'.toNat = 70 := rfl
  simp only [hexDigit?, Char.le_def, UInt32.le_iff_toNat_le, Char.toNat_val] at h
  grind

theorem hexDigit?_of_toNat_ge {c : Char} (h : 128 ≤ c.toNat) : hexDigit? c = none := by
  have nine : '9'.toNat = 57 := rfl
  have lower : 'f'.toNat = 102 := rfl
  have upper : 'F'.toNat = 70 := rfl
  simp only [hexDigit?, Char.le_def, UInt32.le_iff_toNat_le, Char.toNat_val]
  rw [if_neg (by omega), if_neg (by omega), if_neg (by omega)]

/-- The digits are among the first 128 characters: a table of these tells all about them, and the
others are none. -/
@[elab_as_elim]
theorem ascii_cases {P : Char → Prop} (c : Char) (table : ∀ n : Fin 128, P (Char.ofNat n))
    (above : ∀ d : Char, 128 ≤ d.toNat → P d) : P c := by
  by_cases low : c.toNat < 128
  · have entry := table ⟨c.toNat, low⟩
    rwa [Char.ofNat_toNat] at entry
  · exact above c (Nat.le_of_not_lt low)

theorem hexDigit?_isSome_iff (c : Char) :
    (hexDigit? c).isSome ↔ c ∈ "0123456789abcdefABCDEF".toList := by
  induction c using ascii_cases with
  | table n =>
    revert n
    decide +kernel
  | above d high =>
    have small : "0123456789abcdefABCDEF".toList.all (·.toNat < 128) := by decide
    rw [hexDigit?_of_toNat_ge high]
    refine ⟨nofun, fun member => ?_⟩
    have low := of_decide_eq_true (List.all_eq_true.1 small d member)
    exact absurd high (Nat.not_le_of_lt low)

theorem hexDigit?_toLower (c : Char) : hexDigit? c.toLower = hexDigit? c := by
  induction c using ascii_cases with
  | table n =>
    revert n
    decide +kernel
  | above d high =>
    have same : d.toLower = d := by
      refine dif_neg fun letter => ?_
      have upper : d.val.toNat ≤ 90 := UInt32.le_iff_toNat_le.1 letter.2
      exact absurd high (Nat.not_le_of_lt (Nat.lt_of_le_of_lt upper (by decide)))
    rw [same]

theorem hexDigit?_hexDigit {n : Nat} (h : n < 16) : hexDigit? (hexDigit n) = some n := by
  have : ∀ m : Fin 16, hexDigit? (hexDigit m) = some m.val := by decide
  exact this ⟨n, h⟩

/-- A plus sign is passed over only if something follows it. -/
theorem hexByte?_one (c : Char) : hexByte? [c] = (hexDigit? c).map UInt8.ofNat := by
  have alone : unsigned [c] = [c] := by
    unfold unsigned
    split
    · next same => cases same
    · rfl
  cases digit : hexDigit? c with
  | none => simp [hexByte?, alone, hexNat?, digit]
  | some n =>
    have small := hexDigit?_lt digit
    simp [hexByte?, alone, hexNat?, digit, show n < 256 by omega]

theorem hexByte?_plus (c : Char) : hexByte? ['+', c] = (hexDigit? c).map UInt8.ofNat := by
  cases digit : hexDigit? c with
  | none => simp [hexByte?, unsigned, hexNat?, digit]
  | some n =>
    have small := hexDigit?_lt digit
    simp [hexByte?, unsigned, hexNat?, digit, show n < 256 by omega]

theorem hexByte?_two {c : Char} (digits : c ≠ '+') (d : Char) :
    hexByte? [c, d] = (hexDigit? c).bind fun high =>
      (hexDigit? d).map fun low => UInt8.ofNat (16 * high + low) := by
  have plain : unsigned [c, d] = [c, d] := by
    unfold unsigned
    split
    · next same =>
      cases same
      exact absurd rfl digits
    · rfl
  cases first : hexDigit? c with
  | none => simp [hexByte?, plain, hexNat?, first]
  | some high =>
    cases second : hexDigit? d with
    | none => simp [hexByte?, plain, hexNat?, first, second]
    | some low =>
      have := hexDigit?_lt first
      have := hexDigit?_lt second
      simp [hexByte?, plain, hexNat?, first, second, show 16 * high + low < 256 by omega]

theorem notMem_hexDigits {c : Char} (h : hexDigit? c = none) (n : Nat) : c ∉ hexDigits n := by
  have other {m : Nat} (low : m < 16) : c ≠ hexDigit m := by
    rintro rfl
    rw [hexDigit?_hexDigit low] at h
    cases h
  fun_induction hexDigits n with
  | case1 n low => simpa using other low
  | case2 n high ih => simpa [ih] using other (Nat.mod_lt n (by decide))

end LeaseRoutes.Text
