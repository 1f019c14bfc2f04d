import LeaseRoutes.Proofs.Heartbeat.Story
import Mathlib.Algebra.GroupWithZero.Nat

namespace LeaseRoutes.Heartbeat.Timer

/-! ## What happens next -/

/-- In the `i`-th round something happens at a time up to the limit, and in no other before. -/
structure Next (now limit : Nat) (rounds : List Round) (i time : Nat) : Prop where
  bound : time ≤ limit
  least : ∀ r ∈ rounds, ∀ u, r.time? now = some u → time ≤ u
  split : ∃ before r after, rounds = before ++ r :: after ∧ before.length = i ∧
    r.time? now = some time

section Next

variable {now limit i time : Nat} {r : Round} {rest : List Round}

/-- A round in which nothing happens first does not change what comes next. -/
theorem Next.cons (h : Next now limit rest i time)
    (first : ∀ u, r.time? now = some u → time ≤ u) : Next now limit (r :: rest) (i + 1) time := by
  obtain ⟨before, s, after, split, length, at_⟩ := h.split
  refine ⟨h.bound, List.forall_mem_cons.2 ⟨first, h.least⟩, r :: before, s, after, ?_, ?_, at_⟩
  · rw [split, List.cons_append]
  · rw [List.length_cons, length]

theorem Next.head (own : r.time? now = some time) (bound : time ≤ limit)
    (least : ∀ s ∈ rest, ∀ u, s.time? now = some u → time ≤ u) :
    Next now limit (r :: rest) 0 time := by
  refine ⟨bound, List.forall_mem_cons.2 ⟨fun u at_ => ?_, least⟩, [], r, rest, rfl, rfl, own⟩
  exact Nat.le_of_eq (Option.some.inj (own.symm.trans at_))

end Next

/-- What comes next is found, unless nothing happens up to the limit. -/
theorem nextRound?_spec (now limit : Nat) (rounds : List Round) :
    match nextRound? now limit rounds with
    | none => ∀ r ∈ rounds, ∀ u, r.time? now = some u → limit < u
    | some (i, time) => Next now limit rounds i time := by
  induction rounds with
  | nil => exact nofun
  | cons r rest ih =>
    cases own : r.time? now with
    | none =>
      have never : ∀ {b u : Nat}, r.time? now = some u → b ≤ u := by simp [own]
      cases later : nextRound? now limit rest with
      | none =>
        simp only [nextRound?, own, later, Option.map_none]
        rw [later] at ih
        exact List.forall_mem_cons.2 ⟨fun u => never, ih⟩
      | some p =>
        simp only [nextRound?, own, later, Option.map_some]
        rw [later] at ih
        exact ih.cons fun u => never
    | some t =>
      have only : ∀ u, r.time? now = some u → u = t := fun u at_ =>
        Option.some.inj (at_.symm.trans own)
      cases later : nextRound? now limit rest with
      | none =>
        simp only [nextRound?, own, later, Option.map_none]
        rw [later] at ih
        by_cases far : limit < t
        · rw [if_pos far]
          exact List.forall_mem_cons.2 ⟨fun u at_ => only u at_ ▸ far, ih⟩
        · rw [if_neg far]
          have bound : t ≤ limit := Nat.le_of_not_lt far
          refine .head own bound fun s member u at_ => ?_
          exact Nat.le_trans bound (Nat.le_of_lt (ih s member u at_))
      | some p =>
        simp only [nextRound?, own, later, Option.map_some]
        rw [later] at ih
        have bound := ih.bound
        by_cases far : limit < t
        · rw [if_pos far]
          exact ih.cons fun u at_ => by rw [only u at_]; omega
        · rw [if_neg far]
          by_cases sooner : p.2 < t
          · rw [if_pos sooner]
            exact ih.cons fun u at_ => by rw [only u at_]; omega
          · rw [if_neg sooner]
            refine .head own (by omega) fun s member u at_ => ?_
            exact Nat.le_trans (Nat.le_of_not_lt sooner) (ih.least s member u at_)

/-! ## One step -/

/-- What a round does when its time has come, and what is left of it. -/
inductive Acts (t : Timer) (r : Round) : Event → Option Round → Prop
  | sent (delay : Nat) (reply : Switch.Reply) : r.waiting = none →
    Acts t r (.sent r.number t.now) (some { r with
      due := nextDue t.interval r.due t.now
      waiting := some (t.now + delay, reply) })
  | observed (w : Nat) (reply : Switch.Reply) (transition : Transition) :
    r.waiting = some (w, reply) →
      Acts t r (.observed r.number t.now transition) (if r.canceled then none else some { r with
        due := if transition = .discontinuity then t.now + t.interval else r.due
        waiting := none })

theorem send_eq (t : Timer) (r : Round) :
    ∃ delay reply script, t.send r =
      ({ r with
          due := nextDue t.interval r.due t.now
          waiting := some (t.now + delay, reply) },
        { t with
          script := script
          past := .sent r.number t.now :: t.past }) := by
  unfold send
  split
  exact ⟨_, _, _, rfl⟩

theorem receive_eq (t : Timer) (r : Round) (reply : Switch.Reply) :
    ∃ transition monitor, t.receive r reply =
      ({ r with
          due := if transition = .discontinuity then t.now + t.interval else r.due
          waiting := none },
        { t with
          monitor := monitor
          past := .observed r.number t.now transition :: t.past }) := by
  unfold receive
  cases taken : t.monitor.take reply with
  | mk transition m =>
    refine ⟨transition, if transition = .discontinuity ∧ t.givesUp then m.callBack else m, ?_⟩
    cases transition with
    | discontinuity => simp
    | failed | steady => simp

theorem act_cases {t : Timer} {before after : List Round} {r : Round}
    (split : t.rounds = before ++ r :: after) :
    ∃ e kept script monitor, Acts t r e kept ∧
      t.act before.length = { t with
        script := script
        monitor := monitor
        rounds := before ++ (kept.toList ++ after)
        past := e :: t.past } := by
  cases waiting : r.waiting with
  | none =>
    obtain ⟨delay, reply, script, sent⟩ := send_eq t r
    refine ⟨_, _, script, t.monitor, .sent delay reply waiting, ?_⟩
    simp [act, waiting, sent, split]
  | some p =>
    obtain ⟨w, reply⟩ := p
    obtain ⟨transition, monitor, received⟩ := receive_eq t r reply
    refine ⟨_, _, t.script, monitor, .observed w reply transition waiting, ?_⟩
    cases canceled : r.canceled with
    | true =>
      simp [act, waiting, received, split, canceled,
        List.eraseIdx_append_of_length_le (Nat.le_refl before.length)]
    | false => simp [act, waiting, received, split, canceled]

/-! ## What holds of a timer -/

/-- A round remembers what its story leaves behind, of which `last` is the end, and its time has not
gone by. One that is canceled waits for a reply. -/
structure Fits (t : Timer) (r : Round) (last : Nat) : Prop where
  numbered : r.number < t.starts
  story : Story t.interval r.number (life r.number t.past) r.due r.waiting.isSome last
  known : last ≤ t.now
  prompt : ∀ u, r.time? last = some u → t.now ≤ u
  canceled : r.canceled = true → r.waiting.isSome = true

/-- All lives are regular, the rounds fit in with them, and probes are sent by what is in force. -/
structure Sound (t : Timer) : Prop where
  numbers : ∀ e ∈ t.past, ∀ n, e.number? = some n → n < t.starts
  lives : ∀ n, life n t.past = [] ∨ Regular t.interval (life n t.past)
  rounds : ∀ r ∈ t.rounds, ∃ last, Fits t r last
  distinct : t.rounds.Pairwise fun r s => r.number ≠ s.number
  force : ∀ n, inForce t.past = some n ↔ ∃ r ∈ t.rounds, r.number = n ∧ r.canceled = false
  sends : ∀ n u earlier, .sent n u :: earlier <:+ t.past → inForce earlier = some n

section Fits

variable {t : Timer} {r : Round} {last : Nat}

theorem Fits.going (fits : Fits t r last) (waiting : r.waiting = none) : r.canceled = false := by
  cases canceled : r.canceled with
  | false => rfl
  | true => simpa [waiting] using fits.canceled canceled

/-- It makes no difference that the clock has gone on since. -/
theorem Fits.time?_now (fits : Fits t r last) : r.time? t.now = r.time? last := by
  have known := fits.known
  cases waiting : r.waiting with
  | some p => simp only [Round.time?, waiting]
  | none =>
    have going := fits.going waiting
    have prompt := fits.prompt (max r.due last) (by simp [Round.time?, waiting, going])
    have same : max r.due t.now = max r.due last := by omega
    simp [Round.time?, waiting, going, same]

theorem Fits.now_le (fits : Fits t r last) {u : Nat} (h : r.time? t.now = some u) : t.now ≤ u :=
  fits.prompt u (fits.time?_now.symm.trans h)

/-- The clock may go on until something happens. -/
theorem Fits.tick (fits : Fits t r last) {now : Nat} (later : t.now ≤ now)
    (first : ∀ u, r.time? t.now = some u → now ≤ u) : Fits { t with now := now } r last where
  numbered := fits.numbered
  story := fits.story
  known := Nat.le_trans fits.known later
  prompt u h := first u (fits.time?_now.trans h)
  canceled := fits.canceled

end Fits

theorem Sound.tick {t : Timer} (sound : Sound t) {now : Nat} (later : t.now ≤ now)
    (first : ∀ r ∈ t.rounds, ∀ u, r.time? t.now = some u → now ≤ u) :
    Sound { t with now := now } where
  numbers := sound.numbers
  lives := sound.lives
  rounds r member := by
    obtain ⟨last, fits⟩ := sound.rounds r member
    exact ⟨last, fits.tick later (first r member)⟩
  distinct := sound.distinct
  force := sound.force
  sends := sound.sends

/-! ### A round acts -/

/-- What a round does goes on with its story, and what is left of the round fits in with that. -/
structure Outcome (t : Timer) (r : Round) (e : Event) (kept : Option Round) : Prop where
  own : e.number? = some r.number
  going : e.ends = false
  regular : Regular t.interval (e :: life r.number t.past)
  sends : ∀ n u, e = .sent n u → r.number = n ∧ r.canceled = false
  gone : kept = none → r.canceled = true
  number : ∀ k ∈ kept, k.number = r.number
  canceled : ∀ k ∈ kept, k.canceled = r.canceled
  fits : ∀ k ∈ kept, Fits { t with past := e :: t.past } k t.now

theorem Acts.outcome {t : Timer} {r : Round} {last : Nat} {e : Event} {kept : Option Round}
    (acts : Acts t r e kept) (fits : Fits t r last) (due : r.time? t.now = some t.now) :
    Outcome t r e kept := by
  have story := fits.story
  cases acts with
  | sent delay reply waiting =>
    have going := fits.going waiting
    have time : t.now = max r.due last := by
      rw [fits.time?_now] at due
      simpa [Round.time?, waiting, going] using due.symm
    rw [waiting] at story
    have next := Story.sent story time rfl
    exact {
      own := rfl
      going := rfl
      regular := next.regular
      sends := by
        intro n u same
        cases same
        exact ⟨rfl, going⟩
      gone := nofun
      number := by rintro k ⟨⟩; rfl
      canceled := by rintro k ⟨⟩; rfl
      fits := by
        rintro k ⟨⟩
        refine ⟨fits.numbered, ?_, Nat.le_refl _, by simp [Round.time?], fun _ => rfl⟩
        rw [life_cons_own rfl]
        exact next }
  | observed w reply transition waiting =>
    rw [waiting] at story
    have next : Story t.interval r.number
        (.observed r.number t.now transition :: life r.number t.past)
        (if transition = .discontinuity then t.now + t.interval else r.due) false t.now :=
      .observed story fits.known rfl
    cases canceled : r.canceled with
    | true =>
      exact ⟨rfl, rfl, next.regular, nofun, fun _ => canceled, nofun, nofun, nofun⟩
    | false =>
      exact {
        own := rfl
        going := rfl
        regular := next.regular
        sends := nofun
        gone := nofun
        number := by rintro k ⟨⟩; rfl
        canceled := by rintro k ⟨⟩; exact canceled.symm
        fits := by
          rintro k ⟨⟩
          refine ⟨fits.numbered, ?_, Nat.le_refl _, fun u at_ => ?_, nofun⟩
          · rw [life_cons_own rfl]
            exact next
          · simp only [Round.time?, Bool.false_eq_true, ↓reduceIte, Option.some.injEq] at at_
            exact at_ ▸ Nat.le_max_right _ _ }

section Outcome

variable {t : Timer} {r : Round} {e : Event} {kept : Option Round} (outcome : Outcome t r e kept)

include outcome

theorem Outcome.inForce : inForce (e :: t.past) = inForce t.past := by
  have only : ∀ f ∈ [e], f.ends = false := by simp [outcome.going]
  exact inForce_append only t.past

/-- What is left of a round goes on just if the round does. -/
theorem Outcome.goes_on (n : Nat) :
    (∃ k ∈ kept.toList, k.number = n ∧ k.canceled = false) ↔ r.number = n ∧ r.canceled = false := by
  cases kept with
  | none => simp [outcome.gone rfl]
  | some k => simp [outcome.number k rfl, outcome.canceled k rfl]

theorem Outcome.life_other {n : Nat} (h : r.number ≠ n) : life n (e :: t.past) = life n t.past := by
  refine life_cons_other ?_ t.past
  rw [outcome.own]
  exact fun same => h (Option.some.inj same)

/-- The other rounds are not concerned. -/
theorem Outcome.fits_other {s : Round} {last : Nat} (fits : Fits t s last)
    (h : r.number ≠ s.number) : Fits { t with past := e :: t.past } s last where
  numbered := fits.numbered
  story := by
    rw [outcome.life_other h]
    exact fits.story
  known := fits.known
  prompt := fits.prompt
  canceled := fits.canceled

end Outcome

theorem Sound.act {t : Timer} (sound : Sound t) {before after : List Round} {r : Round}
    (split : t.rounds = before ++ r :: after) (due : r.time? t.now = some t.now) :
    Sound (t.act before.length) := by
  have member : r ∈ t.rounds := by simp [split]
  obtain ⟨last, fits⟩ := sound.rounds r member
  obtain ⟨e, kept, script, monitor, acts, acted⟩ := act_cases split
  have outcome := acts.outcome fits due
  have distinct := sound.distinct
  rw [split, List.pairwise_middle fun h => h.symm, List.pairwise_cons] at distinct
  obtain ⟨others, apart⟩ := distinct
  have fit : ∀ s ∈ before ++ (kept.toList ++ after),
      ∃ last, Fits { t with past := e :: t.past } s last := by
    intro s here
    by_cases left : s ∈ kept
    · exact ⟨t.now, outcome.fits s left⟩
    · have other : s ∈ before ++ after := by
        simp only [List.mem_append, Option.mem_toList] at here ⊢
        exact here.imp_right fun h => h.resolve_left left
      have here : s ∈ t.rounds := by
        simp only [split, List.mem_append, List.mem_cons] at other ⊢
        exact other.imp_right .inr
      obtain ⟨last, fits⟩ := sound.rounds s here
      exact ⟨last, outcome.fits_other fits (others s other)⟩
  rw [acted]
  exact {
    numbers := by
      intro f here n number
      rcases List.mem_cons.1 here with rfl | here
      · obtain rfl : r.number = n := Option.some.inj (outcome.own.symm.trans number)
        exact fits.numbered
      · exact sound.numbers f here n number
    lives := by
      intro n
      by_cases same : r.number = n
      · subst same
        rw [life_cons_own outcome.own]
        exact .inr outcome.regular
      · rw [outcome.life_other same]
        exact sound.lives n
    rounds := by
      intro s here
      obtain ⟨last, fits⟩ := fit s here
      exact ⟨last, fits.numbered, fits.story, fits.known, fits.prompt, fits.canceled⟩
    distinct := by
      cases kept with
      | none => exact apart
      | some k =>
        refine (List.pairwise_middle fun h => h.symm).2 (List.pairwise_cons.2 ⟨?_, apart⟩)
        rw [outcome.number k rfl]
        exact others
    force := by
      intro n
      rw [outcome.inForce, sound.force n, split]
      simp only [List.mem_append, List.mem_cons, or_and_right, exists_or, exists_eq_left,
        outcome.goes_on n]
    sends := by
      intro n u earlier here
      rcases List.suffix_cons_iff.1 here with now | before
      · obtain ⟨sent, rfl⟩ := List.cons.inj now
        exact (sound.force n).2 ⟨r, member, outcome.sends n u sent.symm⟩
      · exact sound.sends n u earlier before }

/-! ### The clock -/

/-- Twice for every millisecond in which a probe may still be sent something can happen. -/
def weight (limit : Nat) (r : Round) : Nat :=
  2 * (limit + 1 - r.due) + if r.waiting.isSome then 1 else 0

/-- How often something can still happen up to the limit. -/
def load (limit : Nat) (rounds : List Round) : Nat := (rounds.map (weight limit)).sum

theorem load_le (limit : Nat) (rounds : List Round) :
    load limit rounds ≤ 2 * (limit + 2) * rounds.length := by
  induction rounds with
  | nil => exact Nat.zero_le _
  | cons r rest ih =>
    have one : weight limit r ≤ 2 * (limit + 2) := by
      unfold weight
      split <;> omega
    simp only [load, List.map_cons, List.sum_cons, List.length_cons, Nat.mul_succ] at ih ⊢
    omega

/-- What happens takes something from what can still happen. -/
theorem Acts.weight_lt {t : Timer} {r : Round} {last limit : Nat} {e : Event} {kept : Option Round}
    (acts : Acts t r e kept) (positive : 0 < t.interval) (fits : Fits t r last)
    (due : r.time? t.now = some t.now) (bound : t.now ≤ limit) :
    (kept.map (weight limit)).getD 0 < weight limit r := by
  cases acts with
  | sent delay reply waiting =>
    have time : max r.due t.now = t.now := by
      simpa [Round.time?, waiting, fits.going waiting] using due
    have next := le_nextDue t.interval r.due t.now
    simp only [weight, waiting, Option.map_some, Option.getD_some, Option.isSome_some,
      Option.isSome_none, Bool.false_eq_true, ↓reduceIte]
    omega
  | observed w reply transition waiting =>
    have story := fits.story
    rw [waiting] at story
    have due := story.due_le
    have known := fits.known
    cases r.canceled with
    | true => simp [weight, waiting]
    | false =>
      simp only [weight, waiting, Option.map_some, Option.getD_some, Option.isSome_some,
        Option.isSome_none, Bool.false_eq_true, ↓reduceIte]
      split <;> omega

theorem load_act_lt {t : Timer} (positive : 0 < t.interval) (sound : Sound t)
    {before after : List Round} {r : Round} (split : t.rounds = before ++ r :: after)
    (due : r.time? t.now = some t.now) {limit : Nat} (bound : t.now ≤ limit) :
    load limit (t.act before.length).rounds < load limit t.rounds := by
  obtain ⟨last, fits⟩ := sound.rounds r (by simp [split])
  obtain ⟨e, kept, script, monitor, acts, acted⟩ := act_cases split
  have less := acts.weight_lt positive fits due bound
  rw [acted, split]
  cases kept with
  | none =>
    simp only [load, Option.toList_none, List.nil_append, List.map_append, List.map_cons,
      List.sum_append, List.sum_cons, Option.map_none, Option.getD_none] at less ⊢
    omega
  | some k =>
    simp only [load, Option.toList_some, List.cons_append, List.nil_append, List.map_append,
      List.map_cons, List.sum_append, List.sum_cons, Option.map_some, Option.getD_some] at less ⊢
    omega

/-- As long as only the clock goes on nothing that was started is ended. -/
structure Goes (t u : Timer) : Prop where
  interval : u.interval = t.interval
  starts : u.starts = t.starts
  past : ∃ new, u.past = new ++ t.past ∧ ∀ e ∈ new, e.ends = false

theorem Goes.refl (t : Timer) : Goes t t := ⟨rfl, rfl, [], rfl, nofun⟩

theorem Goes.trans {t u v : Timer} (h : Goes t u) (k : Goes u v) : Goes t v := by
  obtain ⟨new, past, going⟩ := h.past
  obtain ⟨new', past', going'⟩ := k.past
  refine ⟨k.interval.trans h.interval, k.starts.trans h.starts, new' ++ new, ?_, ?_⟩
  · rw [past', past, List.append_assoc]
  · exact List.forall_mem_append.2 ⟨going', going⟩

theorem Goes.act {t : Timer} {before after : List Round} {r : Round}
    (split : t.rounds = before ++ r :: after) : Goes t (t.act before.length) := by
  obtain ⟨e, kept, script, monitor, acts, acted⟩ := act_cases split
  have going : e.ends = false := by cases acts <;> rfl
  rw [acted]
  exact ⟨rfl, rfl, [e], rfl, by simp [going]⟩

theorem act_now {t : Timer} {before after : List Round} {r : Round}
    (split : t.rounds = before ++ r :: after) : (t.act before.length).now = t.now := by
  obtain ⟨e, kept, script, monitor, acts, acted⟩ := act_cases split
  rw [acted]

theorem Goes.inForce {t u : Timer} (h : Goes t u) : inForce u.past = inForce t.past := by
  obtain ⟨new, past, going⟩ := h.past
  rw [past, inForce_append going]

/-- What comes next happens, and then less can happen up to the limit. -/
theorem next_spec {t : Timer} (positive : 0 < t.interval) (sound : Sound t) {limit i time : Nat}
    (next : nextRound? t.now limit t.rounds = some (i, time)) :
    let u := { t with now := time }.act i
    Sound u ∧ Goes t u ∧ u.now ≤ limit ∧ load limit u.rounds < load limit t.rounds := by
  have spec := nextRound?_spec t.now limit t.rounds
  rw [next] at spec
  obtain ⟨bound, first, before, r, after, split, rfl, at_⟩ := spec
  have member : r ∈ t.rounds := by simp [split]
  obtain ⟨last, fits⟩ := sound.rounds r member
  have later := fits.now_le at_
  have due : r.time? time = some time := by
    have known := (fits.tick later (first r member)).time?_now
    rw [← at_, fits.time?_now]
    exact known
  let v : Timer := { t with now := time }
  have ticked : Sound v := sound.tick later first
  have positive : 0 < v.interval := positive
  have goes : Goes v (v.act before.length) := .act split
  have less := load_act_lt positive ticked split due bound
  have bound : (v.act before.length).now ≤ limit := by
    rw [act_now (t := v) split]
    exact bound
  exact ⟨ticked.act split due, ⟨goes.interval, goes.starts, goes.past⟩, bound, less⟩

/-- The bound on the number of steps suffices: nothing is left that has its time up to the limit. -/
theorem actUpTo_spec {t : Timer} (positive : 0 < t.interval) (sound : Sound t) {limit bound : Nat}
    (start : t.now ≤ limit) (enough : load limit t.rounds ≤ bound) :
    let u := actUpTo limit bound t
    Sound u ∧ Goes t u ∧ u.now ≤ limit ∧
      ∀ r ∈ u.rounds, ∀ time, r.time? u.now = some time → limit < time := by
  induction bound generalizing t with
  | zero =>
    have spec := nextRound?_spec t.now limit t.rounds
    cases next : nextRound? t.now limit t.rounds with
    | none =>
      rw [next] at spec
      exact ⟨sound, .refl t, start, spec⟩
    | some p =>
      obtain ⟨-, -, -, less⟩ := next_spec positive sound next
      omega
  | succ bound ih =>
    have spec := nextRound?_spec t.now limit t.rounds
    cases next : nextRound? t.now limit t.rounds with
    | none =>
      rw [next] at spec
      simp only [actUpTo, next]
      exact ⟨sound, .refl t, start, spec⟩
    | some p =>
      obtain ⟨sound', goes, start', less⟩ := next_spec positive sound next
      have positive' : 0 < ({ t with now := p.2 }.act p.1).interval := by
        rw [goes.interval]
        exact positive
      obtain ⟨sound'', goes', rest⟩ := ih positive' sound' start' (by omega)
      simp only [actUpTo, next]
      exact ⟨sound'', goes.trans goes', rest⟩

/-- When the clock has gone on nothing is left that should have happened. -/
theorem advance_spec {t : Timer} (positive : 0 < t.interval) (sound : Sound t) (ms : Nat) :
    Sound (t.advance ms) ∧ Goes t (t.advance ms) ∧
      ∀ r ∈ (t.advance ms).rounds, ∀ time, r.time? (t.advance ms).now = some time →
        (t.advance ms).now < time := by
  obtain ⟨sound', goes, bound, rest⟩ :=
    actUpTo_spec positive sound (Nat.le_add_right t.now ms) (load_le (t.now + ms) t.rounds)
  have later : ∀ r ∈ (t.advance ms).rounds, ∀ time,
      r.time? (actUpTo (t.now + ms) _ t).now = some time → t.now + ms ≤ time :=
    fun r member time at_ => Nat.le_of_lt (rest r member time at_)
  refine ⟨sound'.tick bound later, ⟨goes.interval, goes.starts, goes.past⟩, ?_⟩
  intro r member time at_
  obtain ⟨last, fits⟩ := sound'.rounds r member
  have ticked := (fits.tick bound (later r member)).time?_now
  refine rest r member time ?_
  rw [fits.time?_now, ← ticked]
  exact at_

end LeaseRoutes.Heartbeat.Timer
