import LeaseRoutes.Daemon.Events
import LeaseRoutes.Proofs.Text.Numeral

namespace LeaseRoutes

/-! ## Breaking a text -/

theorem Text.notMem_of_mem_pieces {sep : Char} {cs piece : List Char}
    (member : piece ∈ pieces sep cs) : sep ∉ piece := by
  induction cs generalizing piece with
  | nil =>
    rw [pieces, List.mem_singleton] at member
    simp [member]
  | cons c rest ih =>
    unfold pieces at member
    split at member
    · rcases List.mem_cons.1 member with rfl | member
      · exact List.not_mem_nil
      · exact ih member
    · next other =>
      split at member
      · rw [List.mem_singleton.1 member, List.mem_singleton]
        exact Ne.symm other
      · next first more split =>
        rw [split] at ih
        rcases List.mem_cons.1 member with rfl | member
        · rw [List.mem_cons, not_or]
          exact ⟨Ne.symm other, ih List.mem_cons_self⟩
        · exact ih (List.mem_cons_of_mem _ member)

namespace Daemon

/-- The characters are these lines with their line breaks. A carriage return before a line feed
belongs to the line break. -/
inductive Breaks : List (List Char) → List Char → Prop
  | nothing : Breaks [] []
  | last {line : List Char} : line ≠ [] → '\n' ∉ line → Breaks [line] line
  | feed {line text : List Char} {lines : List (List Char)} : '\n' ∉ line →
    line.getLast? ≠ some '\r' → Breaks lines text → Breaks (line :: lines) (line ++ '\n' :: text)
  | returnFeed {line text : List Char} {lines : List (List Char)} : '\n' ∉ line →
    Breaks lines text → Breaks (line :: lines) (line ++ '\r' :: '\n' :: text)

theorem broken_cons (line : List Char) {more : List (List Char)} (h : more ≠ []) :
    broken (line :: more) = withoutReturn line :: broken more := by
  cases more with
  | nil => exact absurd rfl h
  | cons => rfl

theorem broken_pieces_append {line : List Char} (clean : '\n' ∉ line) (text : List Char) :
    broken (Text.pieces '\n' (line ++ '\n' :: text)) =
      withoutReturn line :: broken (Text.pieces '\n' text) := by
  rw [Text.pieces_append_cons clean, broken_cons _ (Text.pieces_ne_nil _ _)]

theorem Breaks.broken_eq {lines : List (List Char)} {text : List Char} (h : Breaks lines text) :
    broken (Text.pieces '\n' text) = lines := by
  induction h with
  | nothing => rfl
  | last filled clean =>
    rw [Text.pieces_of_notMem clean, broken, if_neg (by simpa using filled)]
  | feed clean kept _ ih => rw [broken_pieces_append clean, withoutReturn, if_neg kept, ih]
  | @returnFeed line text lines clean _ ih =>
    have whole : '\n' ∉ line ++ ['\r'] := by simp [clean]
    have split : line ++ '\r' :: '\n' :: text = (line ++ ['\r']) ++ '\n' :: text := by simp
    rw [split, broken_pieces_append whole, ih]
    simp [withoutReturn]

theorem breaks_broken {pieces : List (List Char)} (filled : pieces ≠ [])
    (clean : ∀ piece ∈ pieces, '\n' ∉ piece) :
    Breaks (broken pieces) (Text.join '\n' pieces) := by
  induction pieces with
  | nil => exact absurd rfl filled
  | cons line more ih =>
    have first := clean line List.mem_cons_self
    cases more with
    | nil =>
      by_cases empty : line = []
      · subst empty
        exact .nothing
      · rw [broken, if_neg (by simpa using empty)]
        exact .last empty first
    | cons next more =>
      have rest := ih (by simp) fun piece member => clean piece (List.mem_cons_of_mem _ member)
      rw [broken_cons _ (by simp), Text.join]
      · by_cases returned : line.getLast? = some '\r'
        · obtain ⟨start, rfl⟩ := List.getLast?_eq_some_iff.1 returned
          have stripped : withoutReturn (start ++ ['\r']) = start := by simp [withoutReturn]
          rw [stripped, List.append_assoc]
          exact .returnFeed (fun member => first (List.mem_append_left _ member)) rest
        · rw [withoutReturn, if_neg returned]
          exact .feed first returned rest
      · simp

/-- A text has its lines, and no others. -/
theorem linesOf_eq_iff (text : String) (lines : List String) :
    linesOf text = lines ↔ Breaks (lines.map String.toList) text.toList := by
  constructor
  · rintro rfl
    have whole := breaks_broken (Text.pieces_ne_nil '\n' text.toList)
      fun _ member => Text.notMem_of_mem_pieces member
    rw [Text.join_pieces] at whole
    simpa [linesOf, Function.comp_def] using whole
  · intro h
    rw [linesOf, h.broken_eq, List.map_map]
    simp [Function.comp_def]

example : linesOf "\r\na\r\r\n b\nc" = ["", "a\r", " b", "c"] := by decide +kernel

/-- What follows a line break begins a new line. -/
theorem Breaks.append {lines more : List (List Char)} {text rest : List Char}
    (h : Breaks lines text) (ended : text = [] ∨ text.getLast? = some '\n')
    (k : Breaks more rest) : Breaks (lines ++ more) (text ++ rest) := by
  induction h with
  | nothing => exact k
  | @last line filled clean =>
    rcases ended with empty | final
    · exact absurd empty filled
    · exact absurd (List.mem_of_getLast? final) clean
  | @feed line text lines clean kept _ ih =>
    have later : text = [] ∨ text.getLast? = some '\n' := by
      cases text with
      | nil => exact .inl rfl
      | cons => exact .inr (by simpa using ended)
    rw [List.cons_append, List.append_assoc, List.cons_append]
    exact .feed clean kept (ih later)
  | @returnFeed line text lines clean _ ih =>
    have later : text = [] ∨ text.getLast? = some '\n' := by
      cases text with
      | nil => exact .inl rfl
      | cons => exact .inr (by simpa using ended)
    rw [List.cons_append, List.append_assoc, List.cons_append, List.cons_append]
    exact .returnFeed clean (ih later)

/-- The text is empty or ends with a line break. -/
def Ended (text : String) : Prop := text.toList = [] ∨ text.toList.getLast? = some '\n'

theorem linesOf_append {text : String} (ended : Ended text) (rest : String) :
    linesOf (text ++ rest) = linesOf text ++ linesOf rest := by
  rw [linesOf_eq_iff, List.map_append, String.toList_append]
  exact ((linesOf_eq_iff text _).1 rfl).append ended ((linesOf_eq_iff rest _).1 rfl)

end Daemon

/-! ## Blank texts -/

namespace Json

/-- No number begins with white space. -/
theorem Literal.read_of_blank {c : Char} (blank : Text.isBlank c = true) (rest : List Char) :
    Literal.read (c :: rest) = none := by
  have unsigned : c ≠ '-' := by
    rintro rfl
    exact absurd blank (by decide)
  have digit : Text.decDigit? c = none := by
    rw [Text.decDigit?_eq, if_neg]
    intro digit
    rw [Text.isBlank_of_isDigit digit] at blank
    cases blank
  have none : takeDigits (c :: rest) = ([], c :: rest) := by rw [takeDigits, digit]
  unfold Literal.read
  split
  next negative cs split =>
  split at split
  · next tail same =>
    cases same
    exact absurd rfl unsigned
  · cases split
    rw [none]

/-- A text of white space alone holds no value. -/
theorem Document.valueAt_of_blank {cs : List Char} (blank : Text.AllBlank cs) (steps : Nat) :
    (valueAt steps cs).1 = .broken := by
  cases steps with
  | zero => rfl
  | succ steps =>
    cases rest : skipSpace cs with
    | nil => simp [valueAt, rest]
    | cons c tail =>
      have black : Text.isBlank c = true := by
        apply blank
        exact (List.dropWhile_suffix _).subset (rest ▸ List.mem_cons_self)
      rw [valueAt, rest]
      split
      case h_1 same => cases same
      case h_8 => rw [Literal.read_of_blank black]
      all_goals
        next same =>
          cases same
          exact absurd black (by decide)

end Json

/-! ## Operations -/

theorem LeaseEvent.ofText_of_blank {line : String} (blank : Text.Blank line) :
    ∃ e, LeaseEvent.ofText line = .error e := by
  obtain ⟨before, after, front, back, split⟩ := Text.exists_append_trim line.toList
  have empty : Text.trim line.toList = [] := blank
  rw [empty, List.append_nil] at split
  have white : Text.AllBlank line.toList := by
    rw [split]
    intro c member
    rcases List.mem_append.1 member with member | member
    · exact front c member
    · exact back c member
  have broken : (Json.Document.ofText line).1 = .broken :=
    Json.Document.valueAt_of_blank white (2 * line.length + 2)
  have refused : LeaseEvent.read .stream .broken = .error .malformed := rfl
  exact ⟨.malformed, by simp only [ofText, Json.Reader.text, broken, refused]⟩

namespace Daemon

/-- The operation that a line asks for: it holds an event, and the event has an intent over the
snapshot. -/
def operation? (store : LeaseStore) (line : String) : Option (Intent × Switch.Direction) :=
  match LeaseEvent.ofText line with
  | .ok e =>
    match e.consequence store with
    | .ok operation => operation
    | .error _ => none
  | .error _ => none

/-- The line is blank or malformed, or its event is refused or has no consequence. -/
def Inert (store : LeaseStore) (line : String) : Prop :=
  Text.Blank line ∨ (∃ f, LeaseEvent.ofText line = .error f) ∨
    ∃ e, LeaseEvent.ofText line = .ok e ∧
      ((∃ f, e.consequence store = .error f) ∨ e.consequence store = .ok none)

theorem operation?_eq_none_iff (store : LeaseStore) (line : String) :
    operation? store line = none ↔ Inert store line := by
  constructor
  · intro nothing
    unfold operation? at nothing
    split at nothing
    · next e read =>
      refine .inr (.inr ⟨e, read, ?_⟩)
      split at nothing
      · next operation consequence =>
        subst nothing
        exact .inr consequence
      · next f refused => exact .inl ⟨f, refused⟩
    · next f malformed => exact .inr (.inl ⟨f, malformed⟩)
  · rintro (blank | ⟨f, malformed⟩ | ⟨e, read, ⟨f, refused⟩ | ignored⟩)
    · obtain ⟨f, malformed⟩ := LeaseEvent.ofText_of_blank blank
      rw [operation?, malformed]
    · rw [operation?, malformed]
    · rw [operation?, read]
      simp only [refused]
    · rw [operation?, read]
      simp only [ignored]

/-- The operations that a text asks for. -/
def operations (store : LeaseStore) (input : String) : List (Intent × Switch.Direction) :=
  (linesOf input).filterMap (operation? store)

/-- Inert lines may be put in or left out between any others. -/
theorem operations_of_inert {store : LeaseStore} {before bad : String} (after : String)
    (begun : Ended before) (ended : Ended bad ∨ after = "")
    (inert : ∀ line ∈ linesOf bad, Inert store line) :
    operations store (before ++ bad ++ after) = operations store (before ++ after) := by
  have nothing : (linesOf bad).filterMap (operation? store) = [] := by
    rw [List.filterMap_eq_nil_iff]
    intro line member
    exact (operation?_eq_none_iff store line).2 (inert line member)
  have rest : linesOf (bad ++ after) = linesOf bad ++ linesOf after := by
    rcases ended with ended | rfl
    · exact linesOf_append ended after
    · rw [String.append_empty]
      exact (List.append_nil _).symm
  rw [operations, operations, String.append_assoc, linesOf_append begun, linesOf_append begun, rest]
  simp only [List.filterMap_append, nothing, List.nil_append]

end Daemon

end LeaseRoutes
