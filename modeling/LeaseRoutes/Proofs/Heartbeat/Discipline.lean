import LeaseRoutes.Proofs.Heartbeat.Clock

namespace LeaseRoutes.Heartbeat.Timer

/-! ## Starts and stops -/

/-- What is canceled waits for a reply and is as it was. -/
theorem mem_cancel {t : Timer} {s : Round} (h : s ∈ t.cancel.rounds) :
    ∃ r ∈ t.rounds, r.waiting.isSome = true ∧ s = { r with canceled := true } := by
  simp only [cancel, List.mem_map, List.mem_filter] at h
  obtain ⟨r, ⟨member, waiting⟩, rfl⟩ := h
  exact ⟨r, member, waiting, rfl⟩

theorem Fits.cancel {t : Timer} {r : Round} {last : Nat} (fits : Fits t r last)
    (waiting : r.waiting.isSome = true) : Fits t { r with canceled := true } last where
  numbered := fits.numbered
  story := fits.story
  known := fits.known
  prompt u h := by
    refine fits.prompt u ?_
    cases w : r.waiting with
    | none => simp [w] at waiting
    | some p => simpa [Round.time?, w] using h
  canceled _ := waiting

theorem distinct_cancel {t : Timer} (sound : Sound t) :
    t.cancel.rounds.Pairwise fun r s => r.number ≠ s.number := by
  simp only [Timer.cancel, List.pairwise_map]
  exact sound.distinct.filter _

theorem Sound.fresh (interval : Nat) (givesUp : Bool) (script : List (Nat × Switch.Reply)) :
    Sound (fresh interval givesUp script) where
  numbers := nofun
  lives _ := .inl rfl
  rounds := nofun
  distinct := .nil
  force n := by simp [Timer.fresh, inForce]
  sends n u earlier h := by simp [Timer.fresh] at h

/-- The timer is halted, and perhaps the monitor forgets what it observed. -/
theorem Sound.halt {t : Timer} (sound : Sound t) (monitor : Monitor) :
    Sound { t.cancel with monitor := monitor, past := .halted t.now :: t.past } where
  numbers e here n number := by
    rcases List.mem_cons.1 here with rfl | here
    · cases number
    · exact sound.numbers e here n number
  lives := sound.lives
  rounds s here := by
    obtain ⟨r, member, waiting, rfl⟩ := mem_cancel here
    obtain ⟨last, fits⟩ := sound.rounds r member
    have fits := fits.cancel waiting
    exact ⟨last, fits.numbered, fits.story, fits.known, fits.prompt, fits.canceled⟩
  distinct := distinct_cancel sound
  force n := by
    constructor
    · nofun
    · rintro ⟨s, here, -, going⟩
      obtain ⟨r, -, -, rfl⟩ := mem_cancel here
      cases going
  sends n u earlier h := by
    rcases List.suffix_cons_iff.1 h with now | before
    · cases now
    · exact sound.sends n u earlier before

theorem start_eq (t : Timer) :
    t.start false = { t.cancel with
      monitor := t.monitor.restart
      rounds := t.cancel.rounds ++ [⟨t.starts, t.now + t.interval, none, false⟩]
      starts := t.starts + 1
      past := .started t.starts t.now :: t.past } := rfl

/-- A start is the first that happens under its number. -/
theorem Sound.life_start {t : Timer} (sound : Sound t) (n : Nat) :
    life n (.started t.starts t.now :: t.past) =
      if t.starts = n then [.started n t.now] else life n t.past := by
  by_cases new : t.starts = n
  · subst new
    have nothing : life t.starts t.past = [] := by
      refine List.filter_eq_nil_iff.2 fun e here own => ?_
      exact Nat.lt_irrefl _ (sound.numbers e here t.starts (of_decide_eq_true own))
    rw [if_pos rfl, life_cons_own rfl, nothing]
  · have other : (Event.started t.starts t.now).number? ≠ some n :=
      fun same => new (Option.some.inj same)
    rw [if_neg new, life_cons_other other]

/-- A new start takes the place of what was started before. -/
theorem Sound.start {t : Timer} (sound : Sound t) : Sound (t.start false) := by
  rw [start_eq]
  exact {
    numbers := by
      intro e here n number
      rcases List.mem_cons.1 here with rfl | here
      · obtain rfl : t.starts = n := Option.some.inj number
        exact Nat.lt_succ_self _
      · exact Nat.lt_succ_of_lt (sound.numbers e here n number)
    lives := by
      intro n
      rw [sound.life_start]
      split
      · exact .inr trivial
      · exact sound.lives n
    rounds := by
      intro s here
      rcases List.mem_append.1 here with old | new
      · obtain ⟨r, member, waiting, rfl⟩ := mem_cancel old
        obtain ⟨last, fits⟩ := sound.rounds r member
        have fits := fits.cancel waiting
        have same : life r.number (.started t.starts t.now :: t.past) = life r.number t.past := by
          rw [sound.life_start, if_neg (Nat.ne_of_gt fits.numbered)]
        exact ⟨last, Nat.lt_succ_of_lt fits.numbered, same ▸ fits.story, fits.known, fits.prompt,
          fits.canceled⟩
      · rw [List.mem_singleton.1 new]
        refine ⟨t.now, Nat.lt_succ_self _, ?_, Nat.le_refl _, fun u at_ => ?_, nofun⟩
        · rw [sound.life_start, if_pos rfl]
          exact .started t.now
        · simp only [Round.time?, Bool.false_eq_true, ↓reduceIte, Option.some.injEq] at at_
          have now : t.now ≤ u := by omega
          exact now
    distinct := by
      refine List.pairwise_append.2 ⟨distinct_cancel sound, List.pairwise_singleton _ _, ?_⟩
      intro s old s' new
      obtain ⟨r, member, -, rfl⟩ := mem_cancel old
      obtain ⟨last, fits⟩ := sound.rounds r member
      rw [List.mem_singleton.1 new]
      exact Nat.ne_of_lt fits.numbered
    force := by
      intro n
      constructor
      · intro force
        obtain rfl : t.starts = n := Option.some.inj force
        exact ⟨_, List.mem_append_right _ (List.mem_singleton_self _), rfl, rfl⟩
      · rintro ⟨s, here, rfl, going⟩
        rcases List.mem_append.1 here with old | new
        · obtain ⟨r, -, -, rfl⟩ := mem_cancel old
          cases going
        · rw [List.mem_singleton.1 new]
          rfl
    sends := by
      intro n u earlier h
      rcases List.suffix_cons_iff.1 h with now | before
      · cases now
      · exact sound.sends n u earlier before }

/-! ## What ends a start -/

section Ends

variable {t : Timer} (sound : Sound t) {later earlier : List Event} {n s : Nat}

include sound

/-- There is one start for each number. -/
theorem Sound.started_once (split : t.past = later ++ earlier) (begun : .started n s ∈ earlier)
    (s' : Nat) : .started n s' ∉ later := by
  intro again
  obtain ⟨later', between, rfl⟩ := List.append_of_mem again
  have whole : life n t.past = life n later' ++ .started n s' :: life n (between ++ earlier) := by
    rw [split, List.append_assoc, List.cons_append, life_append, life_cons_own rfl]
  have first : Event.started n s ∈ life n (between ++ earlier) :=
    mem_life.2 ⟨List.mem_append_right _ begun, rfl⟩
  rcases sound.lives n with nothing | regular
  · rw [whole] at nothing
    simp at nothing
  · rw [whole] at regular
    rw [regular.started_last] at first
    cases first

/-- What was started before an end sends nothing after it. At most its last probe is observed. -/
theorem Sound.after_end {e : Event} (split : t.past = later ++ e :: earlier) (ends : e.ends = true)
    (begun : .started n s ∈ earlier) :
    life n later = [] ∨ ∃ u transition v rest,
      life n later = [.observed n u transition] ∧ life n earlier = .sent n v :: rest := by
  have once : ∀ s', .started n s' ∉ later ++ [e] :=
    sound.started_once (split.trans (by simp)) begun
  have other : e.number? ≠ some n := by
    cases e with
    | halted => nofun
    | sent | observed => cases ends
    | started m s' =>
      intro same
      obtain rfl : m = n := Option.some.inj same
      exact once s' (by simp)
  have whole : life n t.past = life n later ++ life n earlier := by
    rw [split, life_append, life_cons_other other]
  have first : Event.started n s ∈ life n earlier := mem_life.2 ⟨begun, rfl⟩
  have quiet : ∀ m u, .sent m u ∉ life n later := by
    intro m u here
    obtain ⟨sent, own⟩ := mem_life.1 here
    obtain rfl : m = n := Option.some.inj own
    obtain ⟨later', between, rfl⟩ := List.append_of_mem sent
    have suffix : .sent m u :: (between ++ e :: earlier) <:+ t.past :=
      ⟨later', by rw [split, List.append_assoc, List.cons_append]⟩
    obtain ⟨s', started⟩ := started_of_inForce (sound.sends m u _ suffix) ends
    refine once s' ?_
    rcases List.mem_append.1 started with started | started
    · simp [started]
    · exact List.mem_append_right _ started
  rcases sound.lives n with nothing | regular
  · rw [whole] at nothing
    exact .inl (List.append_eq_nil_iff.1 nothing).1
  · rw [whole] at regular
    rcases regular.rest (List.ne_nil_of_mem first) quiet with
      nothing | ⟨m, u, transition, m', v, rest, observed, sent⟩
    · exact .inl nothing
    · have own : Event.observed m u transition ∈ life n later := by simp [observed]
      have own' : Event.sent m' v ∈ life n earlier := by simp [sent]
      obtain rfl : m = n := Option.some.inj (mem_life.1 own).2
      obtain rfl : m' = m := Option.some.inj (mem_life.1 own').2
      exact .inr ⟨u, transition, v, rest, observed, sent⟩

/-- A probe that is sent after the timer was halted belongs to a start since then. -/
theorem Sound.after_halt {between : List Event} {u v : Nat}
    (split : t.past = later ++ .sent n v :: (between ++ .halted u :: earlier)) :
    ∃ s, .started n s ∈ between := by
  obtain ⟨s, started⟩ := started_of_inForce (sound.sends n v _ ⟨later, split.symm⟩) rfl
  exact ⟨s, by simpa using started⟩

end Ends

/-! ## Sessions -/

/-- A start was ended before its first probe was due. -/
def Cut (interval : Nat) (past : List Event) (n s : Nat) : Prop :=
  ∃ later e earlier, past = later ++ e :: earlier ∧ e.ends = true ∧ .started n s ∈ earlier ∧
    e.time < s + interval

theorem Cut.append {interval n s : Nat} {past : List Event} (h : Cut interval past n s)
    (new : List Event) : Cut interval (new ++ past) n s := by
  obtain ⟨later, e, earlier, rfl, rest⟩ := h
  exact ⟨new ++ later, e, earlier, (List.append_assoc ..).symm, rest⟩

/-- A start that has sent nothing yet is in force and its first probe is not due, or it was ended
before that. -/
def Prompt (t : Timer) : Prop :=
  ∀ n s, life n t.past = [.started n s] →
    Cut t.interval t.past n s ∨ (inForce t.past = some n ∧ t.now < s + t.interval)

/-- What ends a start that has sent nothing comes before its first probe is due. -/
theorem Prompt.ended {t : Timer} (prompt : Prompt t) {n s : Nat}
    (h : life n t.past = [.started n s]) {e : Event} (ends : e.ends = true)
    (now : e.time = t.now) :
    Cut t.interval (e :: t.past) n s := by
  rcases prompt n s h with cut | ⟨-, early⟩
  · exact cut.append [e]
  · have member : Event.started n s ∈ life n t.past := by simp [h]
    exact ⟨[], e, t.past, rfl, ends, (mem_life.1 member).1, now ▸ early⟩

theorem Prompt.start {t : Timer} (prompt : Prompt t) (positive : 0 < t.interval)
    (sound : Sound t) : Prompt (t.start false) := by
  rw [start_eq]
  intro n s h
  rw [sound.life_start] at h
  split at h
  · rename_i new
    obtain ⟨started, -⟩ := List.cons.inj h
    cases started
    exact .inr ⟨congrArg some new, Nat.lt_add_of_pos_right positive⟩
  · exact .inl (prompt.ended h rfl rfl)

theorem Prompt.advance {t : Timer} (prompt : Prompt t) (positive : 0 < t.interval)
    (sound : Sound t) (ms : Nat) : Prompt (t.advance ms) := by
  obtain ⟨sound', goes, rest⟩ := advance_spec positive sound ms
  obtain ⟨new, past, going⟩ := goes.past
  intro n s h
  have before : life n t.past = [.started n s] := by
    rw [past, life_append] at h
    cases own : life n new with
    | nil => rwa [own] at h
    | cons e es =>
      rw [own, List.cons_append] at h
      obtain ⟨rfl, -⟩ := List.cons.inj h
      have started : Event.started n s ∈ life n new := by simp [own]
      cases going _ (mem_life.1 started).1
  rcases prompt n s before with cut | ⟨force, -⟩
  · rw [past, goes.interval]
    exact .inl (cut.append new)
  · rw [← goes.inForce] at force
    obtain ⟨r, member, rfl, canceled⟩ := (sound'.force n).1 force
    obtain ⟨last, fits⟩ := sound'.rounds r member
    have story := fits.story
    rw [h] at story
    obtain ⟨due, waiting⟩ := story.of_started
    have waiting : r.waiting = none := by simpa using waiting
    have early := rest r member _ (by simp only [Round.time?, waiting, canceled]; rfl)
    have known := fits.known
    refine .inr ⟨force, ?_⟩
    rw [goes.interval] at due ⊢
    omega

/-- What is done to a timer. -/
inductive Deed
  | start (refused : Bool)
  | stop
  | advance (ms : Nat)

def perform (t : Timer) : Deed → Timer
  | .start refused => t.start refused
  | .stop => t.stop
  | .advance ms => t.advance ms

/-- Workers that were just started do not refuse the timer. -/
theorem perform_of_startOwn {own : Option Pool} {t u : Timer} {workers : Pool}
    (h : t.startOwn own = .ok (workers, u)) :
    workers.takes = true ∧ u = t.perform (.start false) := by
  cases own with
  | none => cases h
  | some pool =>
    cases h
    exact ⟨rfl, rfl⟩

def session (interval : Nat) (givesUp : Bool) (script : List (Nat × Switch.Reply))
    (deeds : List Deed) : Timer :=
  deeds.foldl perform (fresh interval givesUp script)

/-- What is kept by all that is done to a timer. -/
structure Kept (interval : Nat) (t : Timer) : Prop where
  interval : t.interval = interval
  sound : Sound t
  prompt : Prompt t

theorem Kept.perform {interval : Nat} (positive : 0 < interval) {t : Timer}
    (kept : Kept interval t) (deed : Deed) : Kept interval (t.perform deed) := by
  obtain ⟨rfl, sound, prompt⟩ := kept
  cases deed with
  | advance ms =>
    obtain ⟨sound', goes, -⟩ := advance_spec positive sound ms
    exact ⟨goes.interval, sound', prompt.advance positive sound ms⟩
  | stop => exact ⟨rfl, sound.halt t.monitor, fun n s h => .inl (prompt.ended h rfl rfl)⟩
  | start refused =>
    cases refused with
    | true => exact ⟨rfl, sound.halt t.monitor.restart, fun n s h => .inl (prompt.ended h rfl rfl)⟩
    | false => exact ⟨rfl, sound.start, prompt.start positive sound⟩

theorem kept_session {interval : Nat} (positive : 0 < interval) (givesUp : Bool)
    (script : List (Nat × Switch.Reply)) (deeds : List Deed) :
    Kept interval (session interval givesUp script deeds) := by
  have start : Kept interval (fresh interval givesUp script) := ⟨rfl, .fresh .., nofun⟩
  unfold session
  generalize fresh interval givesUp script = t at start
  induction deeds generalizing t with
  | nil => exact start
  | cons deed deeds ih => exact ih _ (start.perform positive deed)

/-- A timer is started, stopped and left to the clock in any order, and starts may be refused.

The events of every start are regular, and it sends its first probe in time unless it is ended
before. What was started before a stop, another start or a refused start sends nothing after it, and
at most the probe that is on its way then is still observed. After a stop or a refused start nothing
is sent but by starts that are accepted since. -/
theorem session_disciplined {interval : Nat} (positive : 0 < interval) (givesUp : Bool)
    (script : List (Nat × Switch.Reply)) (deeds : List Deed) :
    let t := session interval givesUp script deeds
    (∀ n, life n t.past = [] ∨ Regular interval (life n t.past)) ∧
    (∀ n s, life n t.past = [.started n s] → t.now < s + interval ∨ Cut interval t.past n s) ∧
    (∀ later e earlier n s, t.past = later ++ e :: earlier → e.ends = true →
      .started n s ∈ earlier →
        life n later = [] ∨ ∃ u transition v rest,
          life n later = [.observed n u transition] ∧ life n earlier = .sent n v :: rest) ∧
    ∀ later n v between u earlier,
      t.past = later ++ .sent n v :: (between ++ .halted u :: earlier) →
        ∃ s, .started n s ∈ between := by
  intro t
  obtain ⟨same, sound, prompt⟩ := kept_session positive givesUp script deeds
  refine ⟨?_, fun n s h => ?_, ?_, ?_⟩
  · rw [← same]
    exact sound.lives
  · rw [← same]
    rcases prompt n s h with cut | ⟨-, early⟩
    · exact .inr cut
    · exact .inl early
  · intro later e earlier n s split ends begun
    exact sound.after_end split ends begun
  · intro later n v between u earlier split
    exact sound.after_halt split

/-- The timer is stopped while a probe is on its way. -/
theorem session_disciplined_stopped :
    let t := session 20 false [(30, .failed .timeout 0)]
      [.start false, .advance 30, .stop, .advance 100]
    0 < 20 ∧ t.past = [.observed 0 50 .failed, .halted 30, .sent 0 20, .started 0 0] ∧
      Regular 20 (life 0 t.past) ∧ ∃ u transition v rest,
        life 0 [.observed 0 50 .failed] = [.observed 0 u transition] ∧
          life 0 [.sent 0 20, .started 0 0] = .sent 0 v :: rest := by
  intro t
  have past : t.past = [.observed 0 50 .failed, .halted 30, .sent 0 20, .started 0 0] := by
    decide +kernel
  obtain ⟨lives, -, ended, -⟩ := session_disciplined (show 0 < 20 by decide) false
    [(30, .failed .timeout 0)] [.start false, .advance 30, .stop, .advance 100]
  have regular := (lives 0).resolve_left (by rw [past]; decide)
  have rest := ended [.observed 0 50 .failed] (.halted 30) [.sent 0 20, .started 0 0] 0 0 past rfl
    (by decide)
  exact ⟨by decide, past, regular, rest.resolve_left (by decide)⟩

end LeaseRoutes.Heartbeat.Timer
