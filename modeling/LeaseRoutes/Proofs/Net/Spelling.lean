import LeaseRoutes.Proofs.Net.Notation

namespace LeaseRoutes

namespace Text

/-- A byte in digits of any case: both of them, or the low one alone if the high one is zero. -/
inductive SpellsByte (b : UInt8) : List Char → Prop
  | both {cs : List Char} (h : cs.map Char.toLower = hexByte b) : SpellsByte b cs
  | low {c : Char} (small : b < 16) (h : c.toLower = hexDigit b.toNat) : SpellsByte b [c]

/-- Bytes with a separator between them. -/
def SpellsBytes (sep : Char) (bytes : List UInt8) (cs : List Char) : Prop :=
  ∃ groups, List.Forall₂ SpellsByte bytes groups ∧ cs = join sep groups

theorem hexDigit?_of_toLower {c : Char} {n : Nat} (small : n < 16) (h : c.toLower = hexDigit n) :
    hexDigit? c = some n := by
  rw [← hexDigit?_toLower, h, hexDigit?_hexDigit small]

theorem toLower_hexDigit {n : Nat} (h : n < 16) : (hexDigit n).toLower = hexDigit n := by
  have all : ∀ m : Fin 16, (hexDigit m).toLower = hexDigit m := by decide
  exact all ⟨n, h⟩

/-- The digits of a byte. -/
theorem halves (b : UInt8) : b.toNat / 16 < 16 ∧ b.toNat % 16 < 16 ∧
    UInt8.ofNat (16 * (b.toNat / 16) + b.toNat % 16) = b := by
  have small : b.toNat < 256 := b.toNat_lt
  rw [Nat.div_add_mod, UInt8.ofNat_toNat]
  exact ⟨by omega, by omega, rfl⟩

theorem map_toLower_hexByte (b : UInt8) : (hexByte b).map Char.toLower = hexByte b := by
  obtain ⟨high, low, -⟩ := halves b
  simp [hexByte, toLower_hexDigit high, toLower_hexDigit low]

theorem spellsByte_hexByte (b : UInt8) : SpellsByte b (hexByte b) := .both (map_toLower_hexByte b)

theorem spellsBytes_hexByte (sep : Char) (bytes : List UInt8) :
    SpellsBytes sep bytes (join sep (bytes.map hexByte)) := by
  refine ⟨_, ?_, rfl⟩
  rw [List.forall₂_map_right_iff, List.forall₂_same]
  exact fun b _ => spellsByte_hexByte b

/-- Two digits whose lower-case forms are those of a byte. -/
theorem pair_of_map_toLower {cs : List Char} {b : UInt8}
    (h : cs.map Char.toLower = hexByte b) :
    ∃ c d, cs = [c, d] ∧ hexDigit? c = some (b.toNat / 16) ∧ hexDigit? d = some (b.toNat % 16) := by
  obtain ⟨c, rest, rfl, first, tail⟩ := List.map_eq_cons_iff.1 h
  obtain ⟨d, rfl, second⟩ := List.map_eq_singleton_iff.1 tail
  exact ⟨c, d, rfl, hexDigit?_of_toLower (halves b).1 first,
    hexDigit?_of_toLower (halves b).2.1 second⟩

theorem hexByte?_pair {c d : Char} {b : UInt8} (high : hexDigit? c = some (b.toNat / 16))
    (low : hexDigit? d = some (b.toNat % 16)) : hexByte? [c, d] = some b := by
  have digit : c ≠ '+' := by
    rintro rfl
    cases high
  rw [hexByte?_two digit, high, low, Option.bind_some, Option.map_some, (halves b).2.2]

theorem SpellsByte.read {b : UInt8} {cs : List Char} (h : SpellsByte b cs) :
    Mac.shortByte? cs = some b := by
  cases h with
  | both h =>
    obtain ⟨c, d, rfl, high, low⟩ := pair_of_map_toLower h
    exact hexByte?_pair high low
  | low small h =>
    have read := hexDigit?_of_toLower (UInt8.lt_iff_toNat_lt.1 small) h
    rw [Mac.shortByte?, if_pos (by simp), hexByte?_one, read, Option.map_some, UInt8.ofNat_toNat]

theorem SpellsByte.loose {b : UInt8} {cs : List Char} (h : SpellsByte b cs) : Loose cs :=
  (Mac.shortByte?_isSome_iff cs).1 (Option.isSome_of_eq_some h.read)

theorem loose_of_spells {bytes : List UInt8} {groups : List (List Char)}
    (h : List.Forall₂ SpellsByte bytes groups) : ∀ g ∈ groups, Loose g := by
  induction h with
  | nil => exact nofun
  | cons spelled _ ih => exact List.forall_mem_cons.2 ⟨spelled.loose, ih⟩

section SpellsBytes

variable {sep : Char} {bytes : List UInt8} {cs : List Char}

theorem SpellsBytes.grouped (h : SpellsBytes sep bytes cs) :
    Grouped sep Loose bytes.length cs := by
  obtain ⟨groups, spells, rfl⟩ := h
  exact ⟨groups, spells.length_eq.symm, loose_of_spells spells, rfl⟩

theorem SpellsBytes.read (h : SpellsBytes sep bytes cs) (filled : bytes ≠ [])
    (other : hexDigit? sep = none) (plain : sep ≠ '+') :
    (pieces sep cs).mapM Mac.shortByte? = some bytes := by
  obtain ⟨groups, spells, rfl⟩ := h
  have some : groups ≠ [] := by
    rintro rfl
    cases spells
    exact filled rfl
  rw [pieces_join some fun g member => (loose_of_spells spells g member).notMem other plain,
    mapM_eq_some_iff]
  exact (spells.imp fun _ _ spelled => spelled.read).flip

end SpellsBytes

end Text

open Text

namespace Mac

/-- In dotted form: three groups of two bytes, in digits of any case. -/
inductive Dotted (m : Mac) (s : String) : Prop
  | groups {a b c d e f : UInt8} {x y z : List Char} (bytes : m.bytes = [a, b, c, d, e, f])
    (first : x.map Char.toLower = hexByte a ++ hexByte b)
    (second : y.map Char.toLower = hexByte c ++ hexByte d)
    (third : z.map Char.toLower = hexByte e ++ hexByte f)
    (text : s.toList = join '.' [x, y, z]) : Dotted m s

/-- The notations of a hardware address. -/
inductive Spells (m : Mac) (s : String) : Prop
  | colons (h : SpellsBytes ':' m.bytes s.toList) : Spells m s
  | hyphens (h : SpellsBytes '-' m.bytes s.toList) : Spells m s
  | dotted (h : m.Dotted s) : Spells m s

theorem spells_text (m : Mac) : m.Spells m.text := by
  refine .colons ?_
  rw [text, String.toList_ofList]
  exact spellsBytes_hexByte ':' m.bytes

theorem ofBytes?_bytes (m : Mac) : ofBytes? m.bytes = some m := ofBytes?_eq_some m.six

theorem groupBytes?_of_toLower {cs : List Char} {a b : UInt8}
    (h : cs.map Char.toLower = hexByte a ++ hexByte b) :
    LooseFour cs ∧ groupBytes? cs = some [a, b] := by
  obtain ⟨left, right, rfl, first, second⟩ := List.map_eq_append_iff.1 h
  obtain ⟨p, q, rfl, high, low⟩ := pair_of_map_toLower first
  obtain ⟨r, t, rfl, high', low'⟩ := pair_of_map_toLower second
  have read : groupBytes? [p, q, r, t] = some [a, b] := by
    simp only [groupBytes?, hexByte?_pair high low, hexByte?_pair high' low', Option.bind_eq_bind,
      Option.bind_some, Option.pure_def]
  exact ⟨(groupBytes?_isSome_iff _).1 (Option.isSome_of_eq_some read), read⟩

/-- Every dotted form is read, by the reader of dotted forms as well as by the other. -/
theorem ofDotted?_of_dotted {m : Mac} {s : String} (h : m.Dotted s) :
    ofDotted? s = some m ∧ ofText? s = some m := by
  obtain ⟨bytes, first, second, third, text⟩ := h
  obtain ⟨four, first⟩ := groupBytes?_of_toLower first
  obtain ⟨four', second⟩ := groupBytes?_of_toLower second
  obtain ⟨four'', third⟩ := groupBytes?_of_toLower third
  have clean {g : List Char} (loose : LooseFour g) : '.' ∉ g :=
    loose.notMem (by decide) (by decide)
  have cut := pieces_join (List.cons_ne_nil _ _) (List.forall_mem_cons.2 ⟨clean four,
    List.forall_mem_cons.2 ⟨clean four', List.forall_mem_singleton.2 (clean four'')⟩⟩)
  have read : dotted? s.toList = some m := by
    rw [text, dotted?, cut]
    simp only [first, second, third, Option.bind_eq_bind, Option.bind_some]
    rw [← m.ofBytes?_bytes, bytes]
    rfl
  have dot : '.' ∈ s.toList := by
    rw [text]
    exact mem_join (by simp)
  exact ⟨read, by simp only [ofText?, dot, ↓reduceIte, read]⟩

/-- Every notation is read. -/
theorem ofText?_of_spells {m : Mac} {s : String} (h : m.Spells s) : ofText? s = some m := by
  have filled : m.bytes ≠ [] := List.ne_nil_of_length_pos (m.six ▸ by decide)
  have several : 1 < m.bytes.length := m.six ▸ by decide
  have clean {c : Char} (other : hexDigit? c = none) (plain : c ≠ '+') (g : List Char)
      (loose : Loose g) : c ∉ g := loose.notMem other plain
  cases h with
  | colons h =>
    have dot := h.grouped.notMem (by decide) (clean (by decide : hexDigit? '.' = none) (by decide))
    have colon := h.grouped.mem several
    simp only [ofText?, if_neg dot, if_pos colon, h.read filled (by decide) (by decide),
      Option.bind_some, m.ofBytes?_bytes]
  | hyphens h =>
    have dot := h.grouped.notMem (by decide) (clean (by decide : hexDigit? '.' = none) (by decide))
    have colon := h.grouped.notMem (by decide) (clean (by decide : hexDigit? ':' = none) (by decide))
    simp only [ofText?, if_neg dot, if_neg colon, h.read filled (by decide) (by decide),
      Option.bind_some, m.ofBytes?_bytes]
  | dotted h => exact (ofDotted?_of_dotted h).2

theorem text_injective : Function.Injective text := by
  intro m n same
  have read := ofText?_of_spells m.spells_text
  rw [same, ofText?_of_spells n.spells_text] at read
  exact (Option.some.inj read).symm

end Mac

namespace Duid

/-- The notations of a client identifier. -/
def Spells (d : Duid) (s : String) : Prop := SpellsBytes ':' d.bytes s.toList

theorem spells_text (d : Duid) : d.Spells d.text := by
  rw [Spells, text, String.toList_ofList]
  exact spellsBytes_hexByte ':' d.bytes

/-- Every notation of an identifier that has bytes is read. -/
theorem ofText_of_spells {d : Duid} {s : String} (filled : d.bytes ≠ []) (h : d.Spells s) :
    ofText s = .ok d := by
  have some : s.isEmpty = false := by
    rw [Bool.eq_false_iff]
    intro empty
    obtain rfl := String.isEmpty_iff.1 empty
    have read := SpellsBytes.read h filled (by decide) (by decide)
    simp [pieces, Mac.shortByte?, hexByte?] at read
  simp only [ofText, some, Bool.false_eq_true, ↓reduceIte,
    SpellsBytes.read h filled (by decide) (by decide)]

/-- The identifier without bytes has the empty text, and no other has it. -/
theorem text_injective : Function.Injective text := by
  intro d e same
  have refused : ofText (text ⟨[]⟩) = .error .empty := rfl
  by_cases none : d.bytes = []
  · by_cases alsoNone : e.bytes = []
    · cases d
      cases e
      congr
      exact none.trans alsoNone.symm
    · have read := ofText_of_spells alsoNone e.spells_text
      rw [← same, show d = ⟨[]⟩ from congrArg Duid.mk none, refused] at read
      cases read
  · have read := ofText_of_spells none d.spells_text
    by_cases alsoNone : e.bytes = []
    · rw [same, show e = ⟨[]⟩ from congrArg Duid.mk alsoNone, refused] at read
      cases read
    · rw [same, ofText_of_spells alsoNone e.spells_text] at read
      exact (Except.ok.inj read).symm

end Duid

end LeaseRoutes
