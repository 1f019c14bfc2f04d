import LeaseRoutes.Heartbeat.Watch
import LeaseRoutes.Proofs.Exporter.Restoration
import LeaseRoutes.Proofs.Heartbeat.Regression
import Mathlib.Logic.Function.Iterate

namespace LeaseRoutes.Heartbeat.Watch

open Switch (Channel)

variable {σ : Type} (channel : Channel σ) (store : LeaseStore)

/-- The monitor does not take the connection for lost. -/
def Up (w : Watch σ) : Prop := ∃ m, w.monitor = some m ∧ m.state.lost = false

theorem not_up_callBack (w : Watch σ) : ¬w.callBack.Up := by
  rintro ⟨m, called, up⟩
  obtain ⟨n, _, rfl⟩ := Option.map_eq_some_iff.1 called
  cases up

theorem not_up_restart (w : Watch σ) : ¬w.restart.Up := by
  rintro ⟨m, restarted, up⟩
  obtain ⟨n, _, rfl⟩ := Option.map_eq_some_iff.1 restarted
  cases up

theorem repeat_callBack (count : Nat) (w : Watch σ) :
    count.repeat callBack w = ⟨w.exporter, count.repeat (Option.map Monitor.callBack) w.monitor⟩ := by
  induction count with
  | zero => rfl
  | succ count ih => simp only [Nat.repeat, ih, callBack]

theorem advance_eq (w : Watch σ) (x : Exporter σ) :
    w.advance x =
      ⟨x, (x.failures - w.exporter.failures).repeat (Option.map Monitor.callBack) w.monitor⟩ :=
  repeat_callBack _ _

theorem advance_exporter (w : Watch σ) (x : Exporter σ) : (w.advance x).exporter = x := by
  rw [advance_eq]

/-- Without new failures the monitor is left alone. -/
theorem advance_monitor (w : Watch σ) {x : Exporter σ} (h : x.failures = w.exporter.failures) :
    (w.advance x).monitor = w.monitor := by
  simp [advance_eq, h, Nat.repeat]

/-- A new failure calls back. -/
theorem not_up_advance (w : Watch σ) {x : Exporter σ} (h : w.exporter.failures < x.failures) :
    ¬(w.advance x).Up := by
  obtain ⟨count, more⟩ := Nat.exists_eq_add_of_lt h
  have calls : x.failures - w.exporter.failures = count + 1 := by omega
  rw [advance, calls]
  exact not_up_callBack _

/-! ## Probes -/

theorem restored_cases (x : Exporter σ) :
    x.restored.queue = x.queue ++ [.resync] ∧ x.restored.failures = x.failures ∨
      x.restored.queue = x.queue ∧ x.restored.failures = x.failures + 1 := by
  cases taken : x.accepts x.offered with
  | true =>
    obtain ⟨queue, world⟩ := Exporter.restored_of_accepts x taken
    exact .inl ⟨queue, world.failures⟩
  | false => exact .inr (by simp [Exporter.restored, Exporter.submit, Exporter.failed, taken])

theorem tick_of_take (w : Watch σ) {m n : Monitor} {t : Transition} (alive : w.monitor = some m)
    (taken : m.take (channel.exchange w.exporter.switch probe).1 = (t, n)) :
    let x := (w.exporter.send channel probe).2
    w.tick channel .resync =
      (some t, if t = .discontinuity then (⟨x, some n⟩ : Watch σ).advance x.restored
        else ⟨x, some n⟩) := by
  simp only [tick, alive, Exporter.send, taken]
  cases t <;> rfl

/-- A probe is one batch, whatever follows from it. A dropped monitor probes no more. -/
theorem tick_sent (w : Watch σ) :
    (w.tick channel .resync).2.exporter.sent =
      w.exporter.sent ++ w.monitor.toList.map fun _ => probe := by
  cases alive : w.monitor with
  | none => simp [tick, alive]
  | some m =>
    cases taken : m.take (channel.exchange w.exporter.switch probe).1 with
    | mk t n =>
      have ticked := tick_of_take channel w alive taken
      by_cases restored : t = .discontinuity
      · simp only [ticked, restored, ↓reduceIte, advance_exporter]
        exact Exporter.restored_sent (w.exporter.send channel probe).2
      · simp only [ticked, restored, ↓reduceIte]
        rfl

/-- A probe puts a resync at the end of the queue if it is a discontinuity and the resync is taken.
Otherwise the queue stays, and the monitor is up only after a steady probe. -/
theorem tick_spec (w : Watch σ) :
    let next := w.tick channel .resync
    (next.1 = some .discontinuity ∧ next.2.exporter.queue = w.exporter.queue ++ [.resync]) ∨
      next.2.exporter.queue = w.exporter.queue ∧ (next.2.Up → next.1 = some .steady ∧ w.Up) := by
  intro next
  cases alive : w.monitor with
  | none =>
    have same : next = (none, w) := by simp only [next, tick, alive]
    rw [same]
    refine .inr ⟨rfl, ?_⟩
    rintro ⟨m, monitor, _⟩
    exact absurd (alive.symm.trans monitor) nofun
  | some m =>
    let x := (w.exporter.send channel probe).2
    cases probed : outcome (channel.exchange w.exporter.switch probe).1 with
    | error e =>
      have same : next = (_, _) := tick_of_take channel w alive (m.take_of_error probed)
      rw [same]
      refine .inr ⟨rfl, ?_⟩
      rintro ⟨n, monitor, up⟩
      obtain rfl := Option.some.inj monitor
      cases up
    | ok u =>
      have taken := m.take_of_ok probed
      by_cases reset : m.state.lost ∨ u < m.state.previous
      · rw [if_pos reset] at taken
        have told : next = (some .discontinuity,
            (⟨x, some m.restored⟩ : Watch σ).advance x.restored) := tick_of_take channel w alive taken
        rw [told, advance_exporter]
        rcases restored_cases x with ⟨queue, _⟩ | ⟨queue, failures⟩
        · exact .inl ⟨rfl, queue⟩
        · refine .inr ⟨queue, fun up => absurd up (not_up_advance _ ?_)⟩
          exact failures ▸ Nat.lt_succ_self _
      · rw [if_neg reset] at taken
        have same : next = (_, _) := tick_of_take channel w alive taken
        rw [same]
        have found : m.state.lost = false := Bool.eq_false_iff.2 fun lost => reset (.inl lost)
        exact .inr ⟨rfl, fun _ => ⟨rfl, m, alive, found⟩⟩

/-! ## Work -/

theorem runFirst_cons (w : Watch σ) {job : Job} {rest : List Job}
    (queued : w.exporter.queue = job :: rest) :
    w.runFirst channel store =
      w.advance (Exporter.runJob channel store { w.exporter with queue := rest } job) := by
  rw [runFirst, Exporter.runFirst_cons channel store queued]

/-- The queue takes all that its first job submits. -/
def Takes (w : Watch σ) : Prop :=
  ∀ n, w.exporter.offered ≤ n → n < (w.runFirst channel store).exporter.offered →
    w.exporter.accepts n = true

/-- What running the first job leaves: those behind it and what it submitted. The monitor is as it
was unless there was no map for a resync. -/
theorem runFirst_spec (w : Watch σ) {job : Job} {rest : List Job}
    (queued : w.exporter.queue = job :: rest) (taken : w.Takes channel store) :
    let next := w.runFirst channel store
    match job with
    | .route .. | .survey => next.exporter.queue = rest ∧ next.monitor = w.monitor
    | .resync =>
      match (w.exporter.survey channel).1 with
      | .error _ => next.exporter.queue = rest ∧ ¬next.Up
      | .ok map =>
        next.exporter.queue = rest ++ (Resync.intents store map).map (fun i => .route i .apply) ∧
          next.monitor = w.monitor := by
  intro next
  let x : Exporter σ := { w.exporter with queue := rest }
  have advanced : next = w.advance (Exporter.runJob channel store x job) :=
    runFirst_cons channel store w queued
  cases job with
  | route i d =>
    have frame := Exporter.SameWork.run channel store x i d
    rw [advanced, advance_exporter]
    exact ⟨frame.queue, advance_monitor w frame.failures⟩
  | survey =>
    rw [advanced, advance_exporter]
    exact ⟨rfl, advance_monitor w rfl⟩
  | resync =>
    cases answer : (w.exporter.survey channel).1 with
    | error e =>
      rw [advanced, advance_exporter, Exporter.runJob_resync_error channel store x answer]
      exact ⟨rfl, not_up_advance w (Nat.lt_succ_self _)⟩
    | ok map =>
      let asked := (x.send channel Switch.surveyBatch).2
      have ran := Exporter.runJob_resync_ok channel store x answer
      have world := Exporter.resync_sameWorld store asked map
      have offered : next.exporter.offered =
          w.exporter.offered + (Resync.intents store map).length := by
        rw [advanced, advance_exporter, ran]
        exact Exporter.resync_offered store asked map
      have queue := Exporter.resync_queue store asked map fun n lo hi =>
        taken n lo (Nat.lt_of_lt_of_eq hi offered.symm)
      rw [advanced, advance_exporter, ran]
      exact ⟨queue, advance_monitor w world.failures⟩

/-! ## Draining -/

theorem repeat_add {α : Type} (f : α → α) (m n : Nat) (a : α) :
    (m + n).repeat f a = m.repeat f (n.repeat f a) := by
  induction m with
  | zero => rw [Nat.zero_add]; rfl
  | succ m ih => rw [Nat.succ_add]; exact congrArg f ih

theorem advance_advance (w : Watch σ) {x y : Exporter σ} (hx : w.exporter.failures ≤ x.failures)
    (hy : x.failures ≤ y.failures) : (w.advance x).advance y = w.advance y := by
  have parts : y.failures - w.exporter.failures =
      (y.failures - x.failures) + (x.failures - w.exporter.failures) := by omega
  simp only [advance_eq, parts, repeat_add]

theorem advance_drainUpTo (bound : Nat) (w : Watch σ) :
    w.advance (Exporter.drainUpTo channel store bound w.exporter).2 =
      (runFirst channel store)^[bound] w := by
  induction bound generalizing w with
  | zero => simp [Exporter.drainUpTo, advance_eq, Nat.repeat]
  | succ bound ih =>
    have first := Exporter.runFirst_grows channel store w.exporter
    have others := Exporter.drainUpTo_grows channel store bound (w.exporter.runFirst channel store)
    have rest := ih (w.runFirst channel store)
    rw [runFirst, advance_exporter, advance_advance w first.failures others.failures] at rest
    rw [Exporter.drainUpTo_succ, Function.iterate_succ_apply]
    exact rest

/-- Draining the queue is running its first job again and again. -/
theorem drain_eq_iterate (w : Watch σ) :
    ∃ count, (w.drain channel store).2 = (runFirst channel store)^[count] w :=
  ⟨_, advance_drainUpTo channel store _ w⟩

end LeaseRoutes.Heartbeat.Watch
