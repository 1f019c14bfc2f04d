import LeaseRoutes.Json.Document
import LeaseRoutes.Json.Printer
import Mathlib.Data.List.Forall2

namespace LeaseRoutes.Json

open Document

/-- What is read of a character's escape. A control character without a letter of its own is
written as a unit of UTF-16. -/
inductive Spells : StringPart → Char → Prop
  | char (c : Char) : Spells (.char c) c
  | unit {c : Char} (control : c.toNat < 0x20) : Spells (.unit c.toNat) c

theorem hexNat?_control {n : Nat} (h : n < 0x20) :
    Text.hexNat? 0 ('0' :: '0' :: Text.hexByte (UInt8.ofNat n)) = some n := by
  have all : ∀ m : Fin 0x20,
      Text.hexNat? 0 ('0' :: '0' :: Text.hexByte (UInt8.ofNat m)) = some m.val := by decide
  exact all ⟨n, h⟩

/-- What stands between the quotes of a string: characters as they are, escapes of one letter, and
units of UTF-16 in four digits. -/
inductive Quotation : List StringPart → List Char → Prop
  | nil : Quotation [] []
  | plain {c : Char} {parts : List StringPart} {cs : List Char} (printable : ¬c.toNat < 0x20)
      (quote : c ≠ '"') (backslash : c ≠ '\\') (tail : Quotation parts cs) :
      Quotation (.char c :: parts) (c :: cs)
  | letter {e c : Char} {parts : List StringPart} {cs : List Char} (h : escaped? e = some c)
      (tail : Quotation parts cs) : Quotation (.char c :: parts) ('\\' :: e :: cs)
  | unit {a b c d : Char} {n : Nat} {parts : List StringPart} {cs : List Char}
      (h : Text.hexNat? 0 [a, b, c, d] = some n) (tail : Quotation parts cs) :
      Quotation (.unit n :: parts) ('\\' :: 'u' :: a :: b :: c :: d :: cs)

/-- A string with its quotes. There is no string if a surrogate in it stands alone. -/
def Quoted (s : Option String) (cs : List Char) : Prop :=
  ∃ parts inner, Quotation parts inner ∧ (joinUnits parts).map String.ofList = s ∧
    cs = '"' :: (inner ++ ['"'])

theorem Quotation.read {parts : List StringPart} {cs : List Char} (h : Quotation parts cs)
    (rest : List Char) : stringParts (cs ++ '"' :: rest) = some (parts, rest) := by
  induction h with
  | nil => rfl
  | @plain c parts cs printable quote backslash tail ih =>
    rw [List.cons_append, stringParts]
    · simp only [printable, backslash, or_self, if_false, ih, Option.bind_eq_bind,
        Option.bind_some, Option.pure_def]
    · exact quote
    · exact fun _ _ _ _ _ escape _ => backslash escape
    · exact fun _ _ escape _ => backslash escape
  | letter letter tail ih =>
    rw [List.cons_append, List.cons_append, stringParts]
    · simp only [letter, ih, Option.bind_eq_bind, Option.bind_some, Option.pure_def]
    · rintro a b c d tail rfl
      cases letter
  | unit digits tail ih =>
    simp only [List.cons_append, stringParts, digits, ih, Option.bind_eq_bind, Option.bind_some,
      Option.pure_def]

/-- A string is read up to its closing quote. -/
theorem Quoted.read {s : Option String} {cs : List Char} (h : Quoted s cs) :
    ∃ tail, cs = '"' :: tail ∧ ∀ rest, stringAt (tail ++ rest) = some (s, rest) := by
  obtain ⟨parts, inner, quotation, joined, rfl⟩ := h
  refine ⟨_, rfl, fun rest => ?_⟩
  rw [List.append_assoc, List.singleton_append, stringAt, quotation.read, ← joined]
  rfl

/-- The escape of one character is one part, whatever follows it. -/
theorem escapeChar_part (c : Char) : ∃ part, Spells part c ∧
    ∀ parts cs, Quotation parts cs → Quotation (part :: parts) (escapeChar c ++ cs) := by
  unfold escapeChar
  split
  case h_8 =>
    split
    · next control =>
      exact ⟨_, .unit control, fun _ _ => .unit (hexNat?_control control)⟩
    · next printable => exact ⟨_, .char c, fun _ _ => .plain printable ‹_› ‹_›⟩
  all_goals exact ⟨_, .char _, fun _ _ => .letter rfl⟩

theorem quotation_escapes (cs : List Char) :
    ∃ parts, List.Forall₂ Spells parts cs ∧ Quotation parts (cs.flatMap escapeChar) := by
  induction cs with
  | nil => exact ⟨[], .nil, .nil⟩
  | cons c cs ih =>
    obtain ⟨part, spells, leads⟩ := escapeChar_part c
    obtain ⟨parts, others, quotation⟩ := ih
    exact ⟨part :: parts, .cons spells others, leads _ _ quotation⟩

/-- A control character is no surrogate. -/
theorem joinUnits_unit {n : Nat} (control : n < 0x20) (parts : List StringPart) :
    joinUnits (.unit n :: parts) = (joinUnits parts).map (Char.ofNat n :: ·) := by
  have leading : isLeading n = false := by
    simp [isLeading]
    omega
  have trailing : isTrailing n = false := by
    simp [isTrailing]
    omega
  match parts with
  | [] => simp [joinUnits, leading, trailing]
  | .char c :: rest => simp [joinUnits, leading, trailing]
  | .unit m :: rest => simp [joinUnits, leading, trailing]

theorem joinUnits_of_spells {parts : List StringPart} {cs : List Char}
    (h : List.Forall₂ Spells parts cs) : joinUnits parts = some cs := by
  induction h with
  | nil => rfl
  | cons spells _ ih =>
    cases spells with
    | char c => rw [joinUnits, ih, Option.map_some]
    | unit control => rw [joinUnits_unit control, ih, Option.map_some, Char.ofNat_toNat]

/-- The text of a string is that string in quotes. -/
theorem quoted_quote (s : String) : Quoted (some s) (quote s) := by
  obtain ⟨parts, spells, quotation⟩ := quotation_escapes s.toList
  refine ⟨parts, _, quotation, ?_, rfl⟩
  rw [joinUnits_of_spells spells, Option.map_some, String.ofList_toList]

end LeaseRoutes.Json
