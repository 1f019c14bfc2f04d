import LeaseRoutes.Proofs.Json.Numeral
import LeaseRoutes.Proofs.Json.Quotation
import Mathlib.Data.List.DropRight

namespace LeaseRoutes.Json

open Document

/-! ## Texts -/

def Space (cs : List Char) : Prop := ∀ c ∈ cs, isSpace c = true

/-- What a stretch of text holds. An element is a value with white space around it. -/
inductive Part
  | value (d : Document)
  | element (d : Document)
  | elements (ds : List Document)
  | member (key d : Document)
  | members (ms : List (Document × Document))

inductive Written : Part → List Char → Prop
  | null : Written (.value .null) ['n', 'u', 'l', 'l']
  | true : Written (.value (.bool true)) ['t', 'r', 'u', 'e']
  | false : Written (.value (.bool false)) ['f', 'a', 'l', 's', 'e']
  | num {l : Literal} {n : Number} {cs : List Char} (numeral : Numeral l cs)
      (number : l.number = some n) : Written (.value (.num n)) cs
  | hugeNum {l : Literal} {cs : List Char} (numeral : Numeral l cs) (number : l.number = none) :
      Written (.value .hugeNum) cs
  | str {s : String} {cs : List Char} (quoted : Quoted (some s) cs) : Written (.value (.str s)) cs
  | badStr {cs : List Char} (quoted : Quoted none cs) : Written (.value .badStr) cs
  | emptyArr {cs : List Char} (space : Space cs) :
      Written (.value (.arr [] true)) ('[' :: (cs ++ [']']))
  | arr {ds : List Document} {cs : List Char} (inner : Written (.elements ds) cs) :
      Written (.value (.arr ds true)) ('[' :: (cs ++ [']']))
  | emptyObj {cs : List Char} (space : Space cs) :
      Written (.value (.obj [] true)) ('\x7b' :: (cs ++ ['\x7d']))
  | obj {ms : List (Document × Document)} {cs : List Char} (inner : Written (.members ms) cs) :
      Written (.value (.obj ms true)) ('\x7b' :: (cs ++ ['\x7d']))
  | element {d : Document} {before cs after : List Char} (left : Space before)
      (value : Written (.value d) cs) (right : Space after) :
      Written (.element d) (before ++ (cs ++ after))
  | lastElement {d : Document} {cs : List Char} (last : Written (.element d) cs) :
      Written (.elements [d]) cs
  | nextElement {d : Document} {ds : List Document} {cs rest : List Char}
      (next : Written (.element d) cs) (others : Written (.elements ds) rest) :
      Written (.elements (d :: ds)) (cs ++ ',' :: rest)
  | member {key d : Document} {ks cs : List Char} (name : Written (.element key) ks)
      (text : key.isText = Bool.true) (value : Written (.element d) cs) :
      Written (.member key d) (ks ++ ':' :: cs)
  | lastMember {key d : Document} {cs : List Char} (last : Written (.member key d) cs) :
      Written (.members [(key, d)]) cs
  | nextMember {key d : Document} {ms : List (Document × Document)} {cs rest : List Char}
      (next : Written (.member key d) cs) (others : Written (.members ms) rest) :
      Written (.members ((key, d) :: ms)) (cs ++ ',' :: rest)

/-- The text is one of the tree. -/
def Document.WrittenAs (d : Document) (s : String) : Prop := Written (.element d) s.toList

/-! ## What is written can be skipped -/

def Part.skips : Part → Bool
  | .value d | .element d => d.skips
  | .elements ds => skipsItems ds
  | .member key d => key.isText && d.skips
  | .members ms => skipsMembers ms

/-- There is nothing broken in a text of the grammar. -/
theorem Written.skips {p : Part} {cs : List Char} (h : Written p cs) : p.skips = Bool.true := by
  induction h with
  | null | true | false | num | hugeNum | str | badStr | emptyArr | emptyObj => rfl
  | arr _ ih | obj _ ih => simpa [Part.skips, Document.skips] using ih
  | element _ _ _ ih => exact ih
  | lastElement _ ih => simpa [Part.skips, skipsItems] using ih
  | nextElement _ _ ih others =>
    simp only [Part.skips, skipsItems] at ih others ⊢
    rw [ih, others, Bool.and_true]
  | member _ text _ _ ih =>
    simp only [Part.skips] at ih ⊢
    rw [text, ih, Bool.and_true]
  | lastMember _ ih => simpa [Part.skips, skipsMembers] using ih
  | nextMember _ _ ih others =>
    simp only [Part.skips, skipsMembers] at ih others ⊢
    rw [ih, others, Bool.and_true]

theorem Written.ne_broken {d : Document} {cs : List Char} (h : Written (.element d) cs) :
    d ≠ .broken := by
  rintro rfl
  cases h.skips

/-! ## White space -/

theorem skipSpace_cons {c : Char} (h : isSpace c = false) (cs : List Char) :
    skipSpace (c :: cs) = c :: cs := by
  simp only [skipSpace, List.dropWhile_cons, h, Bool.false_eq_true, ↓reduceIte]

theorem skipSpace_append {before : List Char} (space : Space before) (cs : List Char) :
    skipSpace (before ++ cs) = skipSpace cs :=
  List.dropWhile_append_of_pos space

theorem skipSpace_skipSpace (cs : List Char) : skipSpace (skipSpace cs) = skipSpace cs :=
  List.dropWhile_idempotent isSpace cs

/-- No literal goes on with white space. -/
theorem ends_append {after rest : List Char} (space : Space after) (ends : Literal.Ends rest) :
    Literal.Ends (after ++ rest) := by
  cases after with
  | nil => exact ends
  | cons c after =>
    refine Literal.ends_cons ?_ _
    have blank := space c List.mem_cons_self
    simp only [isSpace, Bool.or_eq_true, beq_iff_eq] at blank
    rcases blank with ((rfl | rfl) | rfl) | rfl <;> decide

/-- A text whose first character behind white space does not close a bracket or a brace. -/
def Begins (cs : List Char) : Prop :=
  ∃ before c tail, cs = before ++ c :: tail ∧ Space before ∧ isSpace c = false ∧ c ≠ ']' ∧
    c ≠ '\x7d'

theorem begins_cons {c : Char} (h : isSpace c = false ∧ c ≠ ']' ∧ c ≠ '\x7d') (tail : List Char) :
    Begins (c :: tail) :=
  ⟨[], c, tail, rfl, nofun, h⟩

theorem Begins.append {cs : List Char} (h : Begins cs) (rest : List Char) :
    Begins (cs ++ rest) := by
  obtain ⟨before, c, tail, rfl, other⟩ := h
  exact ⟨before, c, tail ++ rest, by rw [List.append_assoc, List.cons_append], other⟩

theorem Begins.pad {before cs : List Char} (space : Space before) (h : Begins cs) :
    Begins (before ++ cs) := by
  obtain ⟨more, c, tail, rfl, spaces, other⟩ := h
  refine ⟨before ++ more, c, tail, by rw [List.append_assoc], ?_, other⟩
  exact fun c member => (List.mem_append.1 member).elim (space c) (spaces c)

theorem Begins.skipSpace {cs : List Char} (h : Begins cs) :
    ∃ c tail, skipSpace cs = c :: tail ∧ c ≠ ']' ∧ c ≠ '\x7d' := by
  obtain ⟨before, c, tail, rfl, space, black, other⟩ := h
  exact ⟨c, tail, by rw [skipSpace_append space, skipSpace_cons black], other⟩

theorem Begins.length_pos {cs : List Char} (h : Begins cs) : 0 < cs.length := by
  obtain ⟨before, c, tail, rfl, -⟩ := h
  rw [List.length_append, List.length_cons]
  omega

/-- No sign and no digit is white space, or closes anything. -/
theorem black_of_first {c : Char} (first : c = '-' ∨ (Text.decDigit? c).isSome) :
    isSpace c = Bool.false ∧ c ≠ ']' ∧ c ≠ '\x7d' := by
  rw [← Bool.not_eq_true]
  refine ⟨fun space => ?_, ?_, ?_⟩
  · simp only [isSpace, Bool.or_eq_true, beq_iff_eq] at space
    rcases space with ((rfl | rfl) | rfl) | rfl <;> exact absurd first (by decide)
  all_goals
    rintro rfl
    exact absurd first (by decide)

theorem begins_of_numeral {l : Literal} {cs : List Char} (h : Numeral l cs) : Begins cs := by
  obtain ⟨c, tail, rfl, first⟩ := h.first
  exact begins_cons (black_of_first first) tail

theorem Written.begins {p : Part} {cs : List Char} (h : Written p cs) : Begins cs := by
  induction h with
  | null | true | false | emptyArr | arr | emptyObj | obj => exact begins_cons (by decide) _
  | num numeral | hugeNum numeral => exact begins_of_numeral numeral
  | str quoted | badStr quoted =>
    obtain ⟨tail, rfl, -⟩ := quoted.read
    exact begins_cons (by decide) tail
  | element left _ _ ih => exact (ih.append _).pad left
  | lastElement _ ih | lastMember _ ih => exact ih
  | nextElement _ _ ih | nextMember _ _ ih | member _ _ _ ih => exact ih.append _

/-! ## The reader -/

section

variable (steps : Nat)

theorem valueAt_skipSpace (cs : List Char) :
    valueAt (steps + 1) (skipSpace cs) = valueAt (steps + 1) cs := by
  rw [valueAt, valueAt, skipSpace_skipSpace]

theorem itemsAt_skipSpace (cs : List Char) :
    itemsAt (steps + 2) (skipSpace cs) = itemsAt (steps + 2) cs := by
  rw [itemsAt, itemsAt, valueAt_skipSpace]

theorem membersAt_skipSpace (cs : List Char) :
    membersAt (steps + 2) (skipSpace cs) = membersAt (steps + 2) cs := by
  rw [membersAt, membersAt, valueAt_skipSpace]

theorem valueAt_numeral {l : Literal} {cs rest : List Char} (numeral : Numeral l cs)
    (ends : Literal.Ends rest) :
    valueAt (steps + 1) (cs ++ rest) =
      (match l.number with | some n => .num n | none => .hugeNum, rest) := by
  have read := numeral.read ends
  obtain ⟨c, tail, rfl, first⟩ := numeral.first
  rw [List.cons_append] at read ⊢
  rw [valueAt, skipSpace_cons (black_of_first first).1]
  split
  case h_1 same => cases same
  case h_8 =>
    simp only [read]
    cases l.number <;> rfl
  all_goals
    next same =>
      cases same
      exact absurd first (by decide)

theorem valueAt_quoted {s : Option String} {cs : List Char} (quoted : Quoted s cs)
    (rest : List Char) :
    valueAt (steps + 1) (cs ++ rest) =
      (match s with | some s => .str s | none => .badStr, rest) := by
  obtain ⟨tail, rfl, read⟩ := quoted.read
  rw [List.cons_append, valueAt, skipSpace_cons rfl]
  cases s <;> simp only [read]

theorem valueAt_bracket {cs : List Char} (begins : Begins cs) :
    valueAt (steps + 3) ('[' :: cs) =
      (.arr (itemsAt (steps + 2) cs).1 (itemsAt (steps + 2) cs).2.1,
        (itemsAt (steps + 2) cs).2.2) := by
  obtain ⟨c, tail, skip, filled, -⟩ := begins.skipSpace
  rw [← itemsAt_skipSpace, valueAt, skipSpace_cons rfl]
  simp only [skip]
  split
  · next same =>
    cases same
    exact absurd rfl filled
  · rfl

theorem valueAt_brace {cs : List Char} (begins : Begins cs) :
    valueAt (steps + 3) ('\x7b' :: cs) =
      (.obj (membersAt (steps + 2) cs).1 (membersAt (steps + 2) cs).2.1,
        (membersAt (steps + 2) cs).2.2) := by
  obtain ⟨c, tail, skip, -, filled⟩ := begins.skipSpace
  rw [← membersAt_skipSpace, valueAt, skipSpace_cons rfl]
  simp only [skip]
  split
  · next same =>
    cases same
    exact absurd rfl filled
  · rfl

variable {steps} {cs rest after : List Char} {x key : Document}

theorem itemsAt_comma (item : valueAt steps cs = (x, after)) (read : x ≠ .broken)
    (comma : skipSpace after = ',' :: rest) :
    itemsAt (steps + 1) cs =
      (x :: (itemsAt steps rest).1, (itemsAt steps rest).2.1, (itemsAt steps rest).2.2) := by
  rw [itemsAt, item]
  split
  · next broken => exact absurd (Prod.mk.inj broken).1 read
  · next same =>
    cases same
    simp only [comma]

theorem itemsAt_bracket (item : valueAt steps cs = (x, after)) (read : x ≠ .broken)
    (bracket : skipSpace after = ']' :: rest) : itemsAt (steps + 1) cs = ([x], true, rest) := by
  rw [itemsAt, item]
  split
  · next broken => exact absurd (Prod.mk.inj broken).1 read
  · next same =>
    cases same
    simp only [bracket]

/-- The key of a member, its colon and its value are read, and `after` follows. -/
structure MemberAt (steps : Nat) (cs : List Char) (key x : Document) (after : List Char) :
    Prop where
  text : key.isText = true
  read : x ≠ .broken
  shape : ∃ behind value, valueAt steps cs = (key, behind) ∧ skipSpace behind = ':' :: value ∧
    valueAt steps value = (x, after)

theorem membersAt_comma (member : MemberAt steps cs key x after)
    (comma : skipSpace after = ',' :: rest) :
    membersAt (steps + 1) cs =
      ((key, x) :: (membersAt steps rest).1, (membersAt steps rest).2.1,
        (membersAt steps rest).2.2) := by
  obtain ⟨text, read, behind, value, name, colon, value⟩ := member
  rw [membersAt, name]
  simp only [text, Bool.not_true, Bool.false_eq_true, ↓reduceIte, colon, value, comma]

theorem membersAt_brace (member : MemberAt steps cs key x after)
    (brace : skipSpace after = '\x7d' :: rest) :
    membersAt (steps + 1) cs = ([(key, x)], true, rest) := by
  obtain ⟨text, read, behind, value, name, colon, value⟩ := member
  rw [membersAt, name]
  simp only [text, Bool.not_true, Bool.false_eq_true, ↓reduceIte, colon, value, brace]

end

/-- The reader takes in a part and stops behind it, if it may take a step for each character. White
space behind an element may be left to the next reader. -/
def Part.Reads : Part → List Char → Prop
  | .value d, cs => ∀ steps rest, cs.length ≤ steps → Literal.Ends rest →
      valueAt steps (cs ++ rest) = (d, rest)
  | .element d, cs => ∀ steps rest, cs.length ≤ steps → Literal.Ends rest →
      ∃ after, skipSpace after = skipSpace rest ∧ valueAt steps (cs ++ rest) = (d, after)
  | .elements ds, cs => ∀ steps rest, cs.length < steps →
      itemsAt steps (cs ++ ']' :: rest) = (ds, true, rest)
  | .member key d, cs => ∀ steps rest, cs.length ≤ steps → Literal.Ends rest →
      ∃ after, skipSpace after = skipSpace rest ∧ MemberAt steps (cs ++ rest) key d after
  | .members ms, cs => ∀ steps rest, cs.length < steps →
      membersAt steps (cs ++ '\x7d' :: rest) = (ms, true, rest)

theorem Written.reads {p : Part} {cs : List Char} (h : Written p cs) : p.Reads cs := by
  have comma (rest : List Char) : Literal.Ends (',' :: rest) := Literal.ends_cons (by decide) rest
  have colon (rest : List Char) : Literal.Ends (':' :: rest) := Literal.ends_cons (by decide) rest
  have bracket (rest : List Char) : Literal.Ends (']' :: rest) :=
    Literal.ends_cons (by decide) rest
  have brace (rest : List Char) : Literal.Ends ('\x7d' :: rest) :=
    Literal.ends_cons (by decide) rest
  induction h with
  | null | true | false =>
    intro steps rest enough _
    obtain ⟨steps, rfl⟩ : ∃ s, steps = s + 1 := ⟨steps - 1, by simp at enough; omega⟩
    rfl
  | num numeral number | hugeNum numeral number =>
    intro steps rest enough ends
    have some := (begins_of_numeral numeral).length_pos
    obtain ⟨steps, rfl⟩ : ∃ s, steps = s + 1 := ⟨steps - 1, by omega⟩
    rw [valueAt_numeral steps numeral ends, number]
  | str quoted | badStr quoted =>
    intro steps rest enough _
    have some := (Written.begins (by first | exact .str quoted | exact .badStr quoted)).length_pos
    obtain ⟨steps, rfl⟩ : ∃ s, steps = s + 1 := ⟨steps - 1, by omega⟩
    rw [valueAt_quoted steps quoted]
  | emptyArr space | emptyObj space =>
    intro steps rest enough _
    rw [List.length_cons] at enough
    obtain ⟨steps, rfl⟩ : ∃ s, steps = s + 1 := ⟨steps - 1, by omega⟩
    rw [List.cons_append, List.append_assoc, List.singleton_append, valueAt,
      skipSpace_cons (by decide)]
    simp only [skipSpace_append space]
    simp (disch := decide) only [skipSpace_cons]
  | arr inner ih =>
    intro steps rest enough _
    have some := inner.begins.length_pos
    rw [List.length_cons, List.length_append, List.length_singleton] at enough
    obtain ⟨steps, rfl⟩ : ∃ s, steps = s + 3 := ⟨steps - 3, by omega⟩
    rw [List.cons_append, List.append_assoc, List.singleton_append,
      valueAt_bracket steps (inner.begins.append _), ih (steps + 2) rest (by omega)]
  | obj inner ih =>
    intro steps rest enough _
    have some := inner.begins.length_pos
    rw [List.length_cons, List.length_append, List.length_singleton] at enough
    obtain ⟨steps, rfl⟩ : ∃ s, steps = s + 3 := ⟨steps - 3, by omega⟩
    rw [List.cons_append, List.append_assoc, List.singleton_append,
      valueAt_brace steps (inner.begins.append _), ih (steps + 2) rest (by omega)]
  | element left value right ih =>
    intro steps rest enough ends
    have some := value.begins.length_pos
    rw [List.length_append, List.length_append] at enough
    obtain ⟨steps, rfl⟩ : ∃ s, steps = s + 1 := ⟨steps - 1, by omega⟩
    refine ⟨_, skipSpace_append right rest, ?_⟩
    rw [List.append_assoc, List.append_assoc, ← valueAt_skipSpace, skipSpace_append left,
      valueAt_skipSpace]
    exact ih (steps + 1) _ (by omega) (ends_append right ends)
  | lastElement last ih =>
    intro steps rest enough
    obtain ⟨steps, rfl⟩ : ∃ s, steps = s + 1 := ⟨steps - 1, by omega⟩
    obtain ⟨after, follows, read⟩ := ih steps _ (by omega) (bracket rest)
    exact itemsAt_bracket read last.ne_broken (by rw [follows, skipSpace_cons (by decide)])
  | nextElement next _ ih others =>
    intro steps rest enough
    rw [List.length_append, List.length_cons] at enough
    obtain ⟨steps, rfl⟩ : ∃ s, steps = s + 1 := ⟨steps - 1, by omega⟩
    rw [List.append_assoc, List.cons_append]
    obtain ⟨after, follows, read⟩ := ih steps _ (by omega) (comma _)
    rw [itemsAt_comma read next.ne_broken (by rw [follows, skipSpace_cons (by decide)]),
      others steps rest (by omega)]
  | member _ text value name ih =>
    intro steps rest enough ends
    rw [List.length_append, List.length_cons] at enough
    obtain ⟨behind, colons, key⟩ := name steps _ (by omega) (colon _)
    obtain ⟨after, follows, read⟩ := ih steps rest (by omega) ends
    rw [skipSpace_cons (by decide)] at colons
    rw [List.append_assoc, List.cons_append]
    exact ⟨after, follows, text, value.ne_broken, behind, _, key, colons, read⟩
  | lastMember _ ih =>
    intro steps rest enough
    obtain ⟨steps, rfl⟩ : ∃ s, steps = s + 1 := ⟨steps - 1, by omega⟩
    obtain ⟨after, follows, member⟩ := ih steps _ (by omega) (brace rest)
    exact membersAt_brace member (by rw [follows, skipSpace_cons (by decide)])
  | nextMember _ _ ih others =>
    intro steps rest enough
    rw [List.length_append, List.length_cons] at enough
    obtain ⟨steps, rfl⟩ : ∃ s, steps = s + 1 := ⟨steps - 1, by omega⟩
    rw [List.append_assoc, List.cons_append]
    obtain ⟨after, follows, member⟩ := ih steps _ (by omega) (comma _)
    rw [membersAt_comma member (by rw [follows, skipSpace_cons (by decide)]),
      others steps rest (by omega)]

/-- An element may have no white space around it. -/
theorem Written.bare {d : Document} {cs : List Char} (h : Written (.value d) cs) :
    Written (.element d) cs := by
  have element : Written (.element d) ([] ++ (cs ++ [])) := .element nofun h nofun
  rwa [List.nil_append, List.append_nil] at element

/-- Every text of a tree is read as that tree, and to its end. -/
theorem Document.ofText_of_writtenAs {d : Document} {s : String} (h : d.WrittenAs s) :
    Document.ofText s = (d, true) := by
  have enough : s.toList.length ≤ 2 * s.length + 2 := by
    rw [String.length_toList]
    omega
  obtain ⟨after, blank, read⟩ := h.reads _ [] enough nofun
  rw [List.append_nil] at read
  rw [ofText, read]
  simp only [blank]
  rfl

end LeaseRoutes.Json
