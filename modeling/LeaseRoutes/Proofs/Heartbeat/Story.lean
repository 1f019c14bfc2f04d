import LeaseRoutes.Heartbeat.Timer
/-!
What may happen to one start of the timer: in which order its events come and how far they are
apart, and what they leave behind, which is what the timer remembers of a start.
-/

namespace LeaseRoutes.Heartbeat.Timer

namespace Event

/-- The start that an event belongs to. -/
def number? : Event → Option Nat
  | started n _ | sent n _ | observed n _ _ => some n
  | halted _ => none

def time : Event → Nat
  | started _ time | halted time | sent _ time | observed _ time _ => time

/-- The event ends whatever was started before. -/
def ends : Event → Bool
  | started .. | halted _ => true
  | sent .. | observed .. => false

end Event

/-! ## The life of a start -/

/-- The events of a start, the latest first. -/
def life (n : Nat) (past : List Event) : List Event := past.filter fun e => e.number? = some n

theorem life_cons_own {n : Nat} {e : Event} (h : e.number? = some n) (past : List Event) :
    life n (e :: past) = e :: life n past := by
  simp [life, h]

theorem life_cons_other {n : Nat} {e : Event} (h : e.number? ≠ some n) (past : List Event) :
    life n (e :: past) = life n past := by
  simp [life, h]

theorem life_append (n : Nat) (later earlier : List Event) :
    life n (later ++ earlier) = life n later ++ life n earlier := List.filter_append ..

theorem mem_life {n : Nat} {e : Event} {past : List Event} :
    e ∈ life n past ↔ e ∈ past ∧ e.number? = some n := by
  simp [life]

/-- Before the first probe one interval has gone by. Between two probes the reply to the first one
is taken in. From one probe to the next it is an interval, but for the tolerance, and a whole
interval goes by after a reply that is a discontinuity. -/
def Regular (interval : Nat) : List Event → Prop
  | [.started _ _] => True
  | [.sent _ t, .started _ s] => t = s + interval
  | .sent _ t :: .observed n u transition :: .sent m v :: es =>
    u ≤ t ∧ v + interval ≤ t + tolerance ∧
      (transition = .discontinuity → u + interval ≤ t) ∧
      Regular interval (.observed n u transition :: .sent m v :: es)
  | .observed _ u _ :: .sent n t :: es => t ≤ u ∧ Regular interval (.sent n t :: es)
  | _ => False

section Regular

variable {interval : Nat}

theorem Regular.tail {e f : Event} {es : List Event} (h : Regular interval (e :: f :: es)) :
    Regular interval (f :: es) := by
  cases e with
  | started | halted => exact h.elim
  | sent =>
    cases f with
    | sent | halted => exact h.elim
    | started =>
      cases es with
      | nil => trivial
      | cons => exact h.elim
    | observed =>
      cases es with
      | nil => exact h.elim
      | cons g es =>
        cases g with
        | sent => exact h.2.2.2
        | started | halted | observed => exact h.elim
  | observed =>
    cases f with
    | sent => exact h.2
    | started | halted | observed => exact h.elim

/-- A start comes before all that happens to it. -/
theorem Regular.started_last {later earlier : List Event} {n s : Nat}
    (h : Regular interval (later ++ .started n s :: earlier)) : earlier = [] := by
  induction later with
  | nil =>
    cases earlier with
    | nil => rfl
    | cons e es => exact h.elim
  | cons e later ih =>
    refine ih ?_
    cases later with
    | nil => exact h.tail
    | cons => exact h.tail

/-- When no more probes are sent at most the last one is still observed. -/
theorem Regular.rest {later earlier : List Event} (h : Regular interval (later ++ earlier))
    (begun : earlier ≠ []) (quiet : ∀ n t, .sent n t ∉ later) :
    later = [] ∨ ∃ n u transition m v es,
      later = [.observed n u transition] ∧ earlier = .sent m v :: es := by
  cases later with
  | nil => exact .inl rfl
  | cons e later =>
    obtain ⟨f, es, next⟩ := List.exists_cons_of_ne_nil
      (show later ++ earlier ≠ [] by simp [begun])
    rw [List.cons_append, next] at h
    cases e with
    | started | halted => exact h.elim
    | sent n t => exact absurd List.mem_cons_self (quiet n t)
    | observed n u transition =>
      cases f with
      | started | halted | observed => exact h.elim
      | sent m v =>
        cases later with
        | nil => exact .inr ⟨n, u, transition, m, v, es, rfl, next⟩
        | cons g later =>
          obtain ⟨rfl, -⟩ := List.cons.inj next
          exact absurd (by simp) (quiet m v)

end Regular

/-! ## Where a start stands -/

/-- What happened to a start, when its next probe is due, whether a probe is on its way, and when
the last of it happened. -/
inductive Story (interval n : Nat) : List Event → Nat → Bool → Nat → Prop
  | started (s : Nat) : Story interval n [.started n s] (s + interval) false s
  | sent {es : List Event} {due last t next : Nat} :
    Story interval n es due false last → t = max due last → next = nextDue interval due t →
      Story interval n (.sent n t :: es) next true t
  | observed {es : List Event} {due last u next : Nat} {transition : Transition} :
    Story interval n es due true last → last ≤ u →
      next = (if transition = .discontinuity then u + interval else due) →
      Story interval n (.observed n u transition :: es) next false u

section Story

variable {interval n : Nat} {es : List Event} {due last : Nat} {flying : Bool}

theorem Story.of_started {m s : Nat} (h : Story interval n [.started m s] due flying last) :
    due = s + interval ∧ flying = false := by
  cases h
  exact ⟨rfl, rfl⟩

theorem le_nextDue (interval due t : Nat) : due + interval ≤ nextDue interval due t := by
  unfold nextDue
  split <;> omega

theorem nextDue_le {interval due t : Nat} (h : due ≤ t) :
    nextDue interval due t ≤ t + interval := by
  unfold nextDue
  split <;> omega

/-- While a probe is on its way the next one is due an interval after it at the latest. -/
theorem Story.due_le (h : Story interval n es due true last) : due ≤ last + interval := by
  cases h with
  | sent _ time next =>
    rw [next]
    exact nextDue_le (by omega)

/-- It is due earlier by what is tolerated at most. -/
theorem Story.le_due (h : Story interval n es due true last) :
    last + interval ≤ due + tolerance := by
  cases h with
  | sent _ time next =>
    rw [next, nextDue]
    split <;> omega

theorem Story.regular (h : Story interval n es due flying last) : Regular interval es := by
  induction h with
  | started => trivial
  | sent h time next ih =>
    cases h with
    | started s =>
      simp only [Regular]
      omega
    | observed h later due =>
      have spaced := h.le_due
      cases h with
      | sent h time' next' =>
        refine ⟨by omega, ?_, ?_, ih⟩
        · split at due <;> omega
        · intro discontinuity
          rw [if_pos discontinuity] at due
          omega
  | observed h later next ih =>
    cases h with
    | sent => exact ⟨later, ih⟩

end Story

/-! ## Which start is in force -/

/-- The start that was not ended since. -/
def inForce : List Event → Option Nat
  | [] => none
  | .started n _ :: _ => some n
  | .halted _ :: _ => none
  | .sent .. :: past | .observed .. :: past => inForce past

theorem inForce_append {new : List Event} (h : ∀ e ∈ new, e.ends = false) (past : List Event) :
    inForce (new ++ past) = inForce past := by
  induction new with
  | nil => rfl
  | cons e new ih =>
    have first := h e List.mem_cons_self
    have rest := ih fun f member => h f (List.mem_cons_of_mem e member)
    cases e with
    | started | halted => cases first
    | sent | observed => exact rest

/-- What is in force was started since the last end. -/
theorem started_of_inForce {later earlier : List Event} {e : Event} {n : Nat}
    (h : inForce (later ++ e :: earlier) = some n) (ends : e.ends = true) :
    ∃ s, .started n s ∈ later ++ [e] := by
  induction later with
  | nil =>
    cases e with
    | started m s =>
      obtain rfl : m = n := Option.some.inj h
      exact ⟨s, List.mem_singleton_self _⟩
    | halted => cases h
    | sent | observed => cases ends
  | cons f later ih =>
    cases f with
    | started m s =>
      obtain rfl : m = n := Option.some.inj h
      exact ⟨s, List.mem_cons_self⟩
    | halted => cases h
    | sent | observed =>
      obtain ⟨s, member⟩ := ih h
      exact ⟨s, List.mem_cons_of_mem _ member⟩

end LeaseRoutes.Heartbeat.Timer
