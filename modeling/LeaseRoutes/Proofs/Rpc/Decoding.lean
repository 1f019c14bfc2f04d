import LeaseRoutes.Rpc.Response
import Mathlib.Data.List.Forall2

namespace LeaseRoutes.Rpc

/-! ## Responses -/

/-- An id is written as a text or as a whole number of 64 bits. -/
inductive Id.Stands : Id → Json → Prop
  | text (s : String) : Stands (.text s) (.str s)
  | num (n : Int64) : Stands (.num n) (.num (.whole n.toInt))

/-- The value is an object with this id and this result and without an error, whatever else is in
it. An error is an object or a text. -/
structure Response.Stands (r : Response) (j : Json) : Prop where
  object : ∃ members, j = .obj members
  noErrorObject : ∀ members, j.get? "error" ≠ some (.obj members)
  noErrorText : ∀ message, j.get? "error" ≠ some (.str message)
  id : ∃ i, j.get? "id" = some i ∧ r.id.Stands i
  result : j.get? "result" = some r.result

theorem Response.Stands.not_array {r : Response} {items : List Json} : ¬r.Stands (.arr items) := by
  intro h
  obtain ⟨members, object⟩ := h.object
  cases object

theorem int64?_eq_some_iff {j : Json} {i : Int64} :
    int64? j = some i ↔ j = .num (.whole i.toInt) := by
  have least : Int64.minValue.toInt = -2 ^ 63 := by decide
  have greatest : Int64.maxValue.toInt = 2 ^ 63 - 1 := by decide
  constructor
  · intro h
    unfold int64? at h
    split at h
    · next n =>
      split at h
      · next bounds =>
        rw [least, greatest] at bounds
        obtain rfl := Option.some.inj h
        rw [Int64.toInt_ofInt_of_le bounds.1 (by omega)]
      · cases h
    · cases h
  · rintro rfl
    simp only [int64?, if_pos (And.intro i.minValue_le_toInt i.toInt_le), Int64.ofInt_toInt]

theorem id?_eq_some_iff {j : Json} {i : Id} : id? j = some i ↔ i.Stands j := by
  constructor
  · intro h
    unfold id? at h
    split at h
    · next s =>
      obtain rfl := Option.some.inj h
      exact .text s
    · obtain ⟨n, found, rfl⟩ := Option.map_eq_some_iff.1 h
      rw [int64?_eq_some_iff.1 found]
      exact .num n
  · intro h
    cases h with
    | text s => rfl
    | num n => simp only [id?, int64?_eq_some_iff.2 rfl, Option.map_some]

/-! ## Exceptions -/

/-- The value reports the exception: its error is an object with a code of 64 bits, a message and
perhaps data. -/
def Exception.Reported (e : Exception) (j : Json) : Prop :=
  ∃ error, j.get? "error" = some (.obj error) ∧
    error.lookup "code" = some (.num (.whole e.code.toInt)) ∧
    error.lookup "message" = some (.str e.message) ∧ error.lookup "data" = e.data

/-- The exception of a value that is no response: what it reports, or else an internal error, with
the message that the value has instead of an error object. -/
structure Exception.Belongs (e : Exception) (j : Json) : Prop where
  reported : ∀ f : Exception, f.Reported j → e = f
  told : ∀ message, j.get? "error" = some (.str message) → e = ⟨-32603, message, none⟩
  internal : (∀ f : Exception, ¬f.Reported j) → e.code = -32603

theorem Exception.belongs_ofObject {j : Json} {error : List (String × Json)}
    (h : j.get? "error" = some (.obj error)) : (Exception.ofObject (.obj error)).Belongs j := by
  constructor
  · rintro f ⟨members, there, code, message, data⟩
    obtain rfl : error = members := by simpa using h.symm.trans there
    simp only [Exception.ofObject, Json.get?, code, message, Option.bind_some,
      int64?_eq_some_iff.2 rfl, data]
  · intro message text
    rw [h] at text
    cases text
  · intro unreported
    unfold Exception.ofObject
    split
    · next code message found text =>
      obtain ⟨value, there, whole⟩ := Option.bind_eq_some_iff.1 found
      rw [int64?_eq_some_iff.1 whole] at there
      exact absurd ⟨error, h, there, text, rfl⟩ (unreported ⟨code, message, _⟩)
    · rfl

theorem Exception.belongs_internal {j : Json} {message : String}
    (noObject : ∀ members, j.get? "error" ≠ some (.obj members))
    (text : ∀ m, j.get? "error" = some (.str m) → m = message) :
    (Exception.internal message).Belongs j := by
  constructor
  · rintro f ⟨error, there, -⟩
    exact absurd there (noObject error)
  · intro m there
    rw [text m there]
    rfl
  · intro _
    rfl

/-! ## One value -/

namespace Response

variable {members : List (String × Json)}

/-- An object without an error decodes just if it has an id and a result. -/
theorem ofObject_of_no_error
    (noObject : ∀ error, (Json.obj members).get? "error" ≠ some (.obj error))
    (noText : ∀ message, (Json.obj members).get? "error" ≠ some (.str message)) :
    (∃ r, ofObject (.obj members) = .ok r ∧ r.Stands (.obj members)) ∨
      (∃ message, ofObject (.obj members) = .error (.internal message)) ∧
        ∀ r : Response, ¬r.Stands (.obj members) := by
  unfold ofObject
  dsimp only
  split
  · next error there => exact absurd there (noObject error)
  · next message there => exact absurd there (noText message)
  · split
    · next id result found there =>
      obtain ⟨i, written, read⟩ := Option.bind_eq_some_iff.1 found
      exact .inl ⟨⟨id, result⟩, rfl, ⟨members, rfl⟩, noObject, noText,
        ⟨i, written, id?_eq_some_iff.1 read⟩, there⟩
    · next incomplete =>
      refine .inr ⟨⟨_, rfl⟩, fun r h => ?_⟩
      obtain ⟨i, written, stands⟩ := h.id
      refine incomplete r.id r.result ?_ h.result
      exact Option.bind_eq_some_iff.2 ⟨i, written, id?_eq_some_iff.2 stands⟩

/-- A value decodes to the response for which it stands, and otherwise to the exception that
belongs to it. -/
theorem ofObject_spec (j : Json) :
    match ofObject j with
    | .ok r => r.Stands j
    | .error e => (∀ r : Response, ¬r.Stands j) ∧ e.Belongs j := by
  cases j with
  | null | bool | num | str | arr =>
    refine ⟨fun r h => ?_, Exception.belongs_internal nofun nofun⟩
    obtain ⟨members, object⟩ := h.object
    cases object
  | obj members =>
    by_cases object : ∃ error, (Json.obj members).get? "error" = some (.obj error)
    · obtain ⟨error, there⟩ := object
      have outcome : ofObject (.obj members) = .error (.ofObject (.obj error)) := by
        simp only [ofObject, there]
      rw [outcome]
      exact ⟨fun r h => h.noErrorObject error there, Exception.belongs_ofObject there⟩
    · have noObject := not_exists.1 object
      by_cases text : ∃ message, (Json.obj members).get? "error" = some (.str message)
      · obtain ⟨message, there⟩ := text
        have outcome : ofObject (.obj members) = .error (.internal message) := by
          simp only [ofObject, there]
        rw [outcome]
        refine ⟨fun r h => h.noErrorText message there, Exception.belongs_internal noObject ?_⟩
        intro m same
        rw [there] at same
        cases same
        rfl
      · have noText := not_exists.1 text
        rcases ofObject_of_no_error noObject noText with
          ⟨r, outcome, stands⟩ | ⟨⟨message, outcome⟩, none⟩
        · rw [outcome]
          exact stands
        · rw [outcome]
          exact ⟨none, Exception.belongs_internal noObject fun m there => absurd there (noText m)⟩

/-- The value stands for the response, or is an array that holds nothing but such a value. -/
def Holds (r : Response) (j : Json) : Prop := r.Stands j ∨ ∃ k, j = .arr [k] ∧ r.Stands k

end Response

/-- What is wrapped in an array of its own. -/
def unwrapped : Json → Json
  | .arr [j] => j
  | j => j

theorem Response.holds_iff {r : Response} {j : Json} : r.Holds j ↔ r.Stands (unwrapped j) := by
  unfold unwrapped
  split
  · next j =>
    constructor
    · rintro (h | ⟨k, same, h⟩)
      · exact absurd h Stands.not_array
      · cases same
        exact h
    · exact fun h => .inr ⟨j, rfl, h⟩
  · next j other =>
    constructor
    · rintro (h | ⟨k, rfl, h⟩)
      · exact h
      · exact absurd rfl (other k)
    · exact .inl

/-- An item decodes like what is wrapped in it, an array with more or fewer values to an
exception of its own. -/
theorem Response.ofItem_eq (j : Json) :
    Response.ofItem j = Response.ofObject (unwrapped j) ∨
      ∃ items message, j = .arr items ∧ unwrapped j = j ∧
        Response.ofItem j = .error (.internal message) := by
  cases j with
  | null | bool | num | str | obj => exact .inl rfl
  | arr items =>
    match items with
    | [] => exact .inr ⟨_, _, rfl, rfl, rfl⟩
    | [k] => exact .inl rfl
    | k :: l :: rest => exact .inr ⟨_, _, rfl, rfl, rfl⟩

theorem Response.ofItem_spec (j : Json) :
    match Response.ofItem j with
    | .ok r => r.Holds j
    | .error e => (∀ r : Response, ¬r.Holds j) ∧ e.Belongs (unwrapped j) := by
  simp only [holds_iff]
  rcases ofItem_eq j with same | ⟨items, message, rfl, plain, outcome⟩
  · rw [same]
    exact ofObject_spec (unwrapped j)
  · rw [outcome, plain]
    exact ⟨fun r => Stands.not_array, Exception.belongs_internal nofun nofun⟩

/-! ## All values -/

/-- The values stand for the responses, one for one: a single value, or the items of an array. -/
inductive Answers : Json → List Response → Prop
  | single {j : Json} {r : Response} (h : r.Stands j) : Answers j [r]
  | array {items : List Json} {rs : List Response}
      (h : List.Forall₂ (fun j (r : Response) => r.Holds j) items rs) : Answers (.arr items) rs

/-- The exception belongs to the first value that stands for no response. -/
inductive Refuses : Json → Exception → Prop
  | single {j : Json} {e : Exception} (other : ∀ items, j ≠ .arr items)
      (offending : ∀ r : Response, ¬r.Stands j) (h : e.Belongs j) : Refuses j e
  | array {accepted rest : List Json} {j : Json} {e : Exception}
      (before : ∀ a ∈ accepted, ∃ r : Response, r.Holds a)
      (offending : ∀ r : Response, ¬r.Holds j) (h : e.Belongs (unwrapped j)) :
      Refuses (.arr (accepted ++ j :: rest)) e

theorem refuses_cons {r : Response} {j : Json} (h : r.Holds j) {rest : List Json} {e : Exception}
    (refuses : Refuses (.arr rest) e) : Refuses (.arr (j :: rest)) e := by
  cases refuses with
  | single other => exact absurd rfl (other rest)
  | @array accepted rest k _ before offending belongs =>
    have first : ∀ a ∈ j :: accepted, ∃ r : Response, r.Holds a := by
      intro a member
      rcases List.mem_cons.1 member with rfl | member
      · exact ⟨r, h⟩
      · exact before a member
    exact .array first offending belongs

theorem responsesOfItems_spec (items : List Json) :
    match responsesOfItems items with
    | .ok rs => List.Forall₂ (fun j (r : Response) => r.Holds j) items rs
    | .error e => Refuses (.arr items) e := by
  induction items with
  | nil => exact .nil
  | cons j rest ih =>
    have head := Response.ofItem_spec j
    cases first : Response.ofItem j with
    | error e =>
      rw [first] at head
      have outcome : responsesOfItems (j :: rest) = .error e := by
        simp only [responsesOfItems, first, bind, Except.bind]
      rw [outcome]
      have before : ∀ a ∈ ([] : List Json), ∃ r : Response, r.Holds a := nofun
      exact .array before head.1 head.2
    | ok r =>
      rw [first] at head
      cases others : responsesOfItems rest with
      | error e =>
        rw [others] at ih
        have outcome : responsesOfItems (j :: rest) = .error e := by
          simp only [responsesOfItems, first, others, bind, Except.bind]
        rw [outcome]
        exact refuses_cons head ih
      | ok rs =>
        rw [others] at ih
        have outcome : responsesOfItems (j :: rest) = .ok (r :: rs) := by
          simp only [responsesOfItems, first, others, bind, Except.bind, pure, Except.pure]
        rw [outcome]
        exact .cons head ih

/-- What is refused has no answers. -/
theorem Refuses.not_answers {j : Json} {e : Exception} (h : Refuses j e) (rs : List Response) :
    ¬Answers j rs := by
  intro answers
  cases h with
  | single other offending belongs =>
    cases answers with
    | single stands => exact offending _ stands
    | array held => exact other _ rfl
  | @array accepted rest k _ before offending belongs =>
    cases answers with
    | single stands => exact absurd stands Response.Stands.not_array
    | array held =>
      have behind := List.forall₂_drop accepted.length held
      rw [List.drop_left] at behind
      obtain ⟨r, -, holds, -, -⟩ := List.forall₂_cons_left_iff.1 behind
      exact offending r holds

theorem responsesOfJson_spec (j : Json) :
    match responsesOfJson j with
    | .ok rs => Answers j rs
    | .error e => Refuses j e := by
  by_cases array : ∃ items, j = .arr items
  · obtain ⟨items, rfl⟩ := array
    have spec := responsesOfItems_spec items
    change match responsesOfItems items with
      | .ok rs => Answers (.arr items) rs
      | .error e => Refuses (.arr items) e
    cases outcome : responsesOfItems items with
    | ok rs =>
      rw [outcome] at spec
      exact .array spec
    | error e =>
      rw [outcome] at spec
      exact spec
  · have other := not_exists.1 array
    have spec := Response.ofObject_spec j
    have single : responsesOfJson j = (Response.ofObject j).map ([·]) := by
      unfold responsesOfJson
      split
      · exact absurd rfl (other _)
      · rfl
    rw [single]
    cases outcome : Response.ofObject j with
    | ok r =>
      rw [outcome] at spec
      exact .single spec
    | error e =>
      rw [outcome] at spec
      exact .single other spec.1 spec.2

theorem Id.Stands.unique {a b : Id} {j : Json} (h : a.Stands j) (other : b.Stands j) : a = b := by
  have read := id?_eq_some_iff.2 h
  rw [id?_eq_some_iff.2 other] at read
  exact (Option.some.inj read).symm

theorem Response.Stands.unique {r s : Response} {j : Json} (h : r.Stands j) (other : s.Stands j) :
    r = s := by
  obtain ⟨i, written, stands⟩ := h.id
  obtain ⟨k, again, same⟩ := other.id
  obtain rfl : i = k := Option.some.inj (written.symm.trans again)
  have result : r.result = s.result := Option.some.inj (h.result.symm.trans other.result)
  cases r
  cases s
  congr
  exact stands.unique same

theorem Answers.unique {j : Json} {rs ss : List Response} (h : Answers j rs)
    (other : Answers j ss) : rs = ss := by
  cases h with
  | single stands =>
    cases other with
    | single again => rw [stands.unique again]
    | array held => exact absurd stands Response.Stands.not_array
  | array held =>
    cases other with
    | single stands => exact absurd stands Response.Stands.not_array
    | array again =>
      have unique : Relator.RightUnique fun j (r : Response) => r.Holds j := by
        intro j r s holds same
        exact (Response.holds_iff.1 holds).unique (Response.holds_iff.1 same)
      exact unique.forall₂ held again

/-- A value decodes to all the responses for which its values stand. -/
theorem responsesOfJson_of_answers {j : Json} {rs : List Response} (h : Answers j rs) :
    responsesOfJson j = .ok rs := by
  have spec := responsesOfJson_spec j
  cases outcome : responsesOfJson j with
  | ok ss =>
    rw [outcome] at spec
    rw [h.unique spec]
  | error e =>
    rw [outcome] at spec
    exact absurd h (spec.not_answers rs)

/-- A body that is no JSON has the code of an unreadable answer. Every other body decodes to the
responses for which its values stand, one for one and in their order, or else, if one of them
stands for none, to the exception that belongs to the first of these. -/
theorem decode_all_or_nothing (body : String) :
    match Json.ofText? body, decode body with
    | some j, .ok rs => Answers j rs
    | some j, .error e => (∀ rs, ¬Answers j rs) ∧ Refuses j e
    | none, .ok _ => False
    | none, .error e => e.code = -32700 := by
  cases read : Json.ofText? body with
  | none =>
    have outcome : decode body = .error (.unparsable "not well-formed") := by
      simp only [decode, read]
    rw [outcome]
    rfl
  | some j =>
    have spec := responsesOfJson_spec j
    have decoded : decode body = responsesOfJson j := by simp only [decode, read]
    rw [decoded]
    cases outcome : responsesOfJson j with
    | ok rs =>
      rw [outcome] at spec
      exact spec
    | error e =>
      rw [outcome] at spec
      exact ⟨spec.not_answers, spec⟩

end LeaseRoutes.Rpc
