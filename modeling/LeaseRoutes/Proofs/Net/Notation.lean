import LeaseRoutes.Identifiers
import Mathlib.Data.List.Forall2
/-!
A byte is read as a numeral, and a numeral may have a plus sign where its first digit is missing;
so the notations that are read are wider than those that are meant.
-/

namespace LeaseRoutes

namespace Text

/-! ## Groups -/

def Hexadecimal (cs : List Char) : Prop := ∀ c ∈ cs, c ∈ "0123456789abcdefABCDEF".toList

def OneOrTwoDigits (cs : List Char) : Prop := (cs.length = 1 ∨ cs.length = 2) ∧ Hexadecimal cs

def FourDigits (cs : List Char) : Prop := cs.length = 4 ∧ Hexadecimal cs

/-- One or two digits, or a plus sign and one digit. -/
def Loose (cs : List Char) : Prop := OneOrTwoDigits cs ∨ ∃ c, Hexadecimal [c] ∧ cs = ['+', c]

/-- Four digits, but a plus sign may stand in the place of the first and of the third. -/
def LooseFour (cs : List Char) : Prop :=
  ∃ high low, high.length = 2 ∧ low.length = 2 ∧ Loose high ∧ Loose low ∧ cs = high ++ low

/-- So many groups of this form with `sep` between them. -/
def Grouped (sep : Char) (group : List Char → Prop) (count : Nat) (cs : List Char) : Prop :=
  ∃ groups : List (List Char), groups.length = count ∧ (∀ g ∈ groups, group g) ∧
    cs = join sep groups

theorem hexadecimal_cons (c : Char) (cs : List Char) :
    Hexadecimal (c :: cs) ↔ (hexDigit? c).isSome ∧ Hexadecimal cs := by
  rw [hexDigit?_isSome_iff]
  exact List.forall_mem_cons

theorem hexadecimal_nil : Hexadecimal [] := nofun

theorem hexadecimal_append {high low : List Char} :
    Hexadecimal (high ++ low) ↔ Hexadecimal high ∧ Hexadecimal low :=
  List.forall_mem_append

theorem notMem_of_hexadecimal {c : Char} {cs : List Char} (other : hexDigit? c = none)
    (h : Hexadecimal cs) : c ∉ cs := by
  intro member
  have digit := (hexDigit?_isSome_iff c).2 (h c member)
  rw [other] at digit
  cases digit

theorem Loose.notMem {c : Char} {cs : List Char} (h : Loose cs) (other : hexDigit? c = none)
    (plain : c ≠ '+') : c ∉ cs := by
  rcases h with digits | ⟨d, digit, rfl⟩
  · exact notMem_of_hexadecimal other digits.2
  · rw [List.mem_cons, not_or]
    exact ⟨plain, notMem_of_hexadecimal other digit⟩

theorem LooseFour.notMem {c : Char} {cs : List Char} (h : LooseFour cs)
    (other : hexDigit? c = none) (plain : c ≠ '+') : c ∉ cs := by
  obtain ⟨high, low, -, -, first, second, rfl⟩ := h
  rw [List.mem_append, not_or]
  exact ⟨first.notMem other plain, second.notMem other plain⟩

/-- The digits alone are what is left without the sign. -/
theorem oneOrTwoDigits_iff (cs : List Char) : OneOrTwoDigits cs ↔ Loose cs ∧ '+' ∉ cs := by
  constructor
  · intro digits
    exact ⟨.inl digits, notMem_of_hexadecimal (by decide) digits.2⟩
  · rintro ⟨digits | ⟨c, -, rfl⟩, unsigned⟩
    · exact digits
    · exact absurd List.mem_cons_self unsigned

theorem fourDigits_iff (cs : List Char) : FourDigits cs ↔ LooseFour cs ∧ '+' ∉ cs := by
  constructor
  · rintro ⟨four, digits⟩
    have high : (cs.take 2).length = 2 := by simp [four]
    have low : (cs.drop 2).length = 2 := by simp [four]
    have cut := (List.take_append_drop 2 cs).symm
    have parts := hexadecimal_append.1 (cut ▸ digits)
    exact ⟨⟨_, _, high, low, .inl ⟨.inr high, parts.1⟩, .inl ⟨.inr low, parts.2⟩, cut⟩,
      notMem_of_hexadecimal (by decide) digits⟩
  · rintro ⟨⟨high, low, two, two', first, second, rfl⟩, unsigned⟩
    rw [List.mem_append, not_or] at unsigned
    have front := (oneOrTwoDigits_iff high).2 ⟨first, unsigned.1⟩
    have back := (oneOrTwoDigits_iff low).2 ⟨second, unsigned.2⟩
    exact ⟨by rw [List.length_append, two, two'], hexadecimal_append.2 ⟨front.2, back.2⟩⟩

section Grouped

variable {sep : Char} {group : List Char → Prop} {count : Nat} {cs : List Char}

theorem Grouped.notMem {c : Char} (h : Grouped sep group count cs) (other : c ≠ sep)
    (clean : ∀ g, group g → c ∉ g) : c ∉ cs := by
  obtain ⟨groups, -, all, rfl⟩ := h
  exact notMem_join other fun g member => clean g (all g member)

theorem Grouped.mem (h : Grouped sep group count cs) (several : 1 < count) : sep ∈ cs := by
  obtain ⟨groups, rfl, -, rfl⟩ := h
  exact mem_join several

/-- A character that some groups do not have is missing from the text just if it is missing from
each group. -/
theorem grouped_without_iff {c : Char} {part : List Char → Prop} (other : c ≠ sep)
    (without : ∀ g, part g ↔ group g ∧ c ∉ g) :
    Grouped sep part count cs ↔ Grouped sep group count cs ∧ c ∉ cs := by
  constructor
  · rintro ⟨groups, length, all, rfl⟩
    exact ⟨⟨groups, length, fun g member => ((without g).1 (all g member)).1, rfl⟩,
      notMem_join other fun g member => ((without g).1 (all g member)).2⟩
  · rintro ⟨⟨groups, length, all, rfl⟩, missing⟩
    exact ⟨groups, length,
      fun g member => (without g).2 ⟨all g member, fun inside =>
        missing (mem_join_of_mem member inside)⟩, rfl⟩

/-- The groups are the pieces between the separators. -/
theorem grouped_iff_pieces (clean : ∀ g, group g → sep ∉ g) (some : 0 < count) :
    Grouped sep group count cs ↔
      (pieces sep cs).length = count ∧ ∀ g ∈ pieces sep cs, group g := by
  constructor
  · rintro ⟨groups, length, all, rfl⟩
    have filled : groups ≠ [] := List.length_pos_iff.1 (length ▸ some)
    rw [pieces_join filled fun g member => clean g (all g member)]
    exact ⟨length, all⟩
  · rintro ⟨length, all⟩
    exact ⟨_, length, all, (join_pieces sep cs).symm⟩

end Grouped

/-! ## Bytes -/

theorem hexByte?_pair_isSome_iff (c d : Char) : (hexByte? [c, d]).isSome ↔ Loose [c, d] := by
  have two : OneOrTwoDigits [c, d] ↔ (hexDigit? c).isSome ∧ (hexDigit? d).isSome := by
    simp [OneOrTwoDigits, hexadecimal_cons, hexadecimal_nil]
  by_cases plus : c = '+'
  · subst plus
    have signed : hexDigit? '+' = none := by decide
    simp [Loose, two, hexByte?_plus, hexadecimal_cons, signed, hexadecimal_nil]
  · have unsigned : ¬∃ e, Hexadecimal [e] ∧ [c, d] = ['+', e] := by
      rintro ⟨e, -, same⟩
      exact plus (List.cons.inj same).1
    rw [Loose, two, hexByte?_two plus]
    simp only [unsigned, or_false]
    cases hexDigit? c <;> cases hexDigit? d <;> simp

end Text

open Text

theorem mapM_eq_some_iff {α β : Type} {f : α → Option β} {as : List α} {bs : List β} :
    as.mapM f = some bs ↔ List.Forall₂ (fun a b => f a = some b) as bs := by
  induction as generalizing bs with
  | nil => simp [eq_comm]
  | cons a as ih =>
    rw [List.mapM_cons, List.forall₂_cons_left_iff]
    simp only [bind, pure, Option.bind_eq_some_iff, ih, Option.some.injEq]
    constructor
    · rintro ⟨b, first, rest, others, rfl⟩
      exact ⟨b, rest, first, others, rfl⟩
    · rintro ⟨b, rest, first, others, rfl⟩
      exact ⟨b, first, rest, others, rfl⟩

theorem mapM_isSome_iff {α β : Type} {f : α → Option β} {as : List α} :
    (as.mapM f).isSome ↔ ∀ a ∈ as, (f a).isSome := by
  induction as with
  | nil => simp
  | cons a as ih =>
    rw [List.mapM_cons, List.forall_mem_cons, ← ih]
    cases f a <;> cases as.mapM f <;> simp

namespace Mac

theorem shortByte?_isSome_iff (cs : List Char) : (shortByte? cs).isSome ↔ Loose cs := by
  match cs with
  | [] => simp [shortByte?, hexByte?, Loose, OneOrTwoDigits]
  | [c] =>
    simp [shortByte?, hexByte?_one, Loose, OneOrTwoDigits, hexadecimal_cons, hexadecimal_nil]
  | [c, d] =>
    rw [← hexByte?_pair_isSome_iff]
    rfl
  | _ :: _ :: _ :: _ => simp [shortByte?, Loose, OneOrTwoDigits]

theorem groupBytes?_isSome_iff (cs : List Char) : (groupBytes? cs).isSome ↔ LooseFour cs := by
  constructor
  · intro read
    unfold groupBytes? at read
    split at read
    · next a b c d =>
      refine ⟨[a, b], [c, d], rfl, rfl, ?_, ?_, rfl⟩
      · rw [← hexByte?_pair_isSome_iff]
        cases first : hexByte? [a, b] with
        | none => simp [first] at read
        | some => rfl
      · rw [← hexByte?_pair_isSome_iff]
        cases second : hexByte? [c, d] with
        | none => cases hexByte? [a, b] <;> simp [second] at read
        | some => rfl
    · cases read
  · rintro ⟨high, low, two, two', first, second, rfl⟩
    obtain ⟨a, b, rfl⟩ := List.length_eq_two.1 two
    obtain ⟨c, d, rfl⟩ := List.length_eq_two.1 two'
    rw [← hexByte?_pair_isSome_iff] at first second
    obtain ⟨x, first⟩ := Option.isSome_iff_exists.1 first
    obtain ⟨y, second⟩ := Option.isSome_iff_exists.1 second
    simp [groupBytes?, first, second]

theorem length_of_groupBytes? {cs : List Char} {bytes : List UInt8}
    (h : groupBytes? cs = some bytes) : bytes.length = 2 := by
  unfold groupBytes? at h
  split at h
  · next a b c d =>
    obtain ⟨x, -, rest⟩ := Option.bind_eq_some_iff.1 h
    obtain ⟨y, -, same⟩ := Option.bind_eq_some_iff.1 rest
    cases same
    rfl
  · cases h

theorem ofBytes?_eq_some {bytes : List UInt8} (six : bytes.length = 6) :
    ofBytes? bytes = some ⟨bytes, six⟩ :=
  dif_pos six

/-- Three groups make six bytes. -/
theorem dotted?_isSome_iff (cs : List Char) :
    (dotted? cs).isSome ↔ Grouped '.' LooseFour 3 cs := by
  rw [grouped_iff_pieces (fun g four => four.notMem (by decide) (by decide)) (by decide)]
  unfold dotted?
  split
  · next a b c cut =>
    simp only [cut, List.length_cons, List.length_nil, List.forall_mem_cons,
      ← groupBytes?_isSome_iff, true_and]
    cases first : groupBytes? a with
    | none => simp
    | some x =>
      cases second : groupBytes? b with
      | none => simp
      | some y =>
        cases third : groupBytes? c with
        | none => simp
        | some z =>
          have six : (x ++ y ++ z).length = 6 := by
            simp [length_of_groupBytes? first, length_of_groupBytes? second,
              length_of_groupBytes? third]
          simp [ofBytes?_eq_some six, -List.append_assoc]
  · next other =>
    refine ⟨nofun, fun three => ?_⟩
    obtain ⟨a, b, c, cut⟩ := List.length_eq_three.1 three.1
    exact absurd cut (other a b c)

/-- The bytes of six groups with a separator that is in none of them. -/
theorem separated_isSome_iff {sep : Char} (other : hexDigit? sep = none) (plain : sep ≠ '+')
    (cs : List Char) :
    (((pieces sep cs).mapM shortByte?).bind ofBytes?).isSome ↔ Grouped sep Loose 6 cs := by
  rw [grouped_iff_pieces (fun g loose => loose.notMem other plain) (by decide)]
  simp only [← shortByte?_isSome_iff, ← mapM_isSome_iff]
  cases read : (pieces sep cs).mapM shortByte? with
  | none => simp
  | some bytes =>
    have length := (mapM_eq_some_iff.1 read).length_eq
    simp only [Option.bind_some, Option.isSome_some, and_true, length, ofBytes?]
    split
    · next six => simp [six]
    · next other => simp [other]

/-- The three forms do not overlap, since each has a separator that is in no group of the others. -/
theorem ofText?_isSome_iff (s : String) :
    (ofText? s).isSome ↔ Grouped ':' Loose 6 s.toList ∨ Grouped '-' Loose 6 s.toList ∨
      Grouped '.' LooseFour 3 s.toList := by
  have loose {c : Char} (other : hexDigit? c = none) (plain : c ≠ '+') (g : List Char) :
      Loose g → c ∉ g := fun h => h.notMem other plain
  simp only [ofText?]
  split
  · next dot =>
    have colon : ¬Grouped ':' Loose 6 s.toList := fun h =>
      h.notMem (by decide) (loose (by decide) (by decide)) dot
    have hyphen : ¬Grouped '-' Loose 6 s.toList := fun h =>
      h.notMem (by decide) (loose (by decide) (by decide)) dot
    simp only [dotted?_isSome_iff, colon, hyphen, false_or]
  · next noDot =>
    have dotted : ¬Grouped '.' LooseFour 3 s.toList := fun h => noDot (h.mem (by decide))
    split
    · next colon =>
      have hyphen : ¬Grouped '-' Loose 6 s.toList := fun h =>
        h.notMem (by decide) (loose (by decide) (by decide)) colon
      simp only [separated_isSome_iff (by decide : hexDigit? ':' = none) (by decide), hyphen,
        dotted, or_false]
    · next noColon =>
      have colon : ¬Grouped ':' Loose 6 s.toList := fun h => noColon (h.mem (by decide))
      simp only [separated_isSome_iff (by decide : hexDigit? '-' = none) (by decide), colon,
        dotted, or_false, false_or]

end Mac

/-- An identifier has any number of bytes but none. -/
theorem Duid.ofText_eq_ok_iff (s : String) :
    (∃ d, Duid.ofText s = .ok d) ↔ ∃ count > 0, Grouped ':' Loose count s.toList := by
  have cut {count : Nat} (some : 0 < count) : Grouped ':' Loose count s.toList ↔ _ :=
    grouped_iff_pieces (fun g loose => loose.notMem (by decide) (by decide)) some
  have groups : (∃ count > 0, Grouped ':' Loose count s.toList) ↔
      ((pieces ':' s.toList).mapM Mac.shortByte?).isSome := by
    simp only [mapM_isSome_iff, Mac.shortByte?_isSome_iff]
    constructor
    · rintro ⟨count, some, grouped⟩
      exact ((cut some).1 grouped).2
    · intro all
      have filled := List.length_pos_iff.2 (pieces_ne_nil ':' s.toList)
      exact ⟨_, filled, (cut filled).2 ⟨rfl, all⟩⟩
  rw [groups, Duid.ofText]
  split
  · next empty =>
    obtain rfl := String.isEmpty_iff.1 empty
    simp [pieces, Mac.shortByte?, hexByte?]
  · cases (pieces ':' s.toList).mapM Mac.shortByte? <;> simp

/-- The notations of hardware addresses, for the groups that may stand for a byte and for a word. -/
def Mac.Notation (byte word : List Char → Prop) (cs : List Char) : Prop :=
  Grouped ':' byte 6 cs ∨ Grouped '-' byte 6 cs ∨ Grouped '.' word 3 cs

/-- The notation of client identifiers, for the groups that may stand for a byte. -/
def Duid.Notation (byte : List Char → Prop) (cs : List Char) : Prop :=
  ∃ count > 0, Grouped ':' byte count cs

theorem Mac.notation_without_sign (cs : List Char) :
    Mac.Notation OneOrTwoDigits FourDigits cs ↔ Mac.Notation Loose LooseFour cs ∧ '+' ∉ cs := by
  rw [Mac.Notation, Mac.Notation, grouped_without_iff (by decide) oneOrTwoDigits_iff,
    grouped_without_iff (by decide) oneOrTwoDigits_iff,
    grouped_without_iff (by decide) fourDigits_iff, or_and_right, or_and_right]

theorem Duid.notation_without_sign (cs : List Char) :
    Duid.Notation OneOrTwoDigits cs ↔ Duid.Notation Loose cs ∧ '+' ∉ cs := by
  simp only [Duid.Notation, grouped_without_iff (by decide : '+' ≠ ':') oneOrTwoDigits_iff]
  constructor
  · rintro ⟨count, some, grouped, unsigned⟩
    exact ⟨⟨count, some, grouped⟩, unsigned⟩
  · rintro ⟨⟨count, some, grouped⟩, unsigned⟩
    exact ⟨count, some, grouped, unsigned⟩

/-- What is read as an identifier, exactly. A hardware address is six groups of one or two digits
with colons or with hyphens between them, or three groups of four digits with dots between them; a
client identifier is one or more groups with colons. In each of them a plus sign may stand where a
byte has only one digit, and the texts that have no plus sign are those of digits only. -/
theorem accepted_iff (s : String) :
    (((Mac.ofText? s).isSome ↔ Mac.Notation Loose LooseFour s.toList) ∧
      (Mac.Notation OneOrTwoDigits FourDigits s.toList ↔
        (Mac.ofText? s).isSome ∧ '+' ∉ s.toList)) ∧
    (((Mac.ofDotted? s).isSome ↔ Grouped '.' LooseFour 3 s.toList) ∧
      (Grouped '.' FourDigits 3 s.toList ↔ (Mac.ofDotted? s).isSome ∧ '+' ∉ s.toList)) ∧
    ((∃ d, Duid.ofText s = .ok d) ↔ Duid.Notation Loose s.toList) ∧
      (Duid.Notation OneOrTwoDigits s.toList ↔
        (∃ d, Duid.ofText s = .ok d) ∧ '+' ∉ s.toList) := by
  have address : (Mac.ofText? s).isSome ↔ Mac.Notation Loose LooseFour s.toList :=
    Mac.ofText?_isSome_iff s
  have dotted : (Mac.ofDotted? s).isSome ↔ Grouped '.' LooseFour 3 s.toList :=
    Mac.dotted?_isSome_iff s.toList
  have client : (∃ d, Duid.ofText s = .ok d) ↔ Duid.Notation Loose s.toList :=
    Duid.ofText_eq_ok_iff s
  rw [address, dotted, client, Mac.notation_without_sign, Duid.notation_without_sign,
    grouped_without_iff (by decide) fourDigits_iff]
  exact ⟨⟨.rfl, .rfl⟩, ⟨.rfl, .rfl⟩, .rfl, .rfl⟩

/-- Texts with plus signs are read by each of the three readers. -/
theorem plus_sign_accepted :
    (¬∀ s, (Mac.ofText? s).isSome → Mac.Notation OneOrTwoDigits FourDigits s.toList) ∧
    (¬∀ s, (Mac.ofDotted? s).isSome → Grouped '.' FourDigits 3 s.toList) ∧
    ¬∀ s d, Duid.ofText s = .ok d → Duid.Notation OneOrTwoDigits s.toList := by
  refine ⟨fun claim => ?_, fun claim => ?_, fun claim => ?_⟩
  · have form := claim "+1:00:00:00:00:00" (by decide +kernel)
    exact ((Mac.notation_without_sign _).1 form).2 (by decide)
  · have form := claim "+1+2.+3+4.+5+6" (by decide +kernel)
    exact ((grouped_without_iff (by decide) fourDigits_iff).1 form).2 (by decide)
  · have form := claim "+a:0b" ⟨[10, 11]⟩ (by decide +kernel)
    exact ((Duid.notation_without_sign _).1 form).2 (by decide)

end LeaseRoutes
