import LeaseRoutes.Proofs.Exporter.Drain

namespace LeaseRoutes

open Switch Metrics

namespace Switch.Stage

/-- Nothing has been changed yet, and what will be changed has this direction. -/
def Aims (d : Direction) : Stage → Prop
  | .lookup _ e => e = d
  | .change c => c.direction = d
  | .done c => c = none
  | .failed _ => True

theorem aims_plan (store : LeaseStore) (i : Intent) (d : Direction) : (plan store i d).Aims d := by
  unfold plan
  split
  · rfl
  · rfl
  · rfl
  · rfl
  · split <;> rfl
  · trivial

theorem aims_resolve (l : Lookup) (d : Direction) (t : RouteTable) : (resolve l d t).Aims d := by
  unfold resolve
  split
  · split
    · rfl
    · trivial
  · split
    · rfl
    · trivial
  · split
    · rfl
    · split
      · rfl
      · trivial

theorem aims_next (l : Lookup) (d : Direction) (r : Reply) : ((lookup l d).next r).Aims d := by
  simp only [next]
  split
  · exact aims_resolve l d _
  · trivial

end Switch.Stage

namespace Exporter

variable {σ : Type} (channel : Channel σ) (store : LeaseStore)

/-! ## One run -/

/-- How a run in a direction that ends in a stage is counted. -/
inductive Credits (d : Direction) (c : RouteCounters) : Stage → RouteCounters → Prop
  | applied (change : Change) : d = .apply → Credits d c (.done (some change)) c.routeApplied
  | removed (change : Change) : d = .remove → Credits d c (.done (some change)) c.routeRemoved
  | benign (change : Change) : Credits d c (.done (some change)) c.benign
  | nothing : Credits d c (.done none) c
  | failure (e : Fault) : Credits d c (.failed e) c.failure

/-- The counters after a run that went on from a stage. -/
def countersAfter (x : Exporter σ) (s : Stage) : RouteCounters :=
  ((x.settle channel s).2.finish (x.settle channel s).1).counters

theorem credits_change (x : Exporter σ) (change : Change) :
    ∃ c, Credits change.direction x.counters (x.settle channel (.change change)).1 c ∧
      x.countersAfter channel (.change change) = c.latency Double.zero := by
  have next : (x.step channel (.change change)).1 =
    (Stage.change change).next (channel.exchange x.switch change.batch).1 := rfl
  have counted : (x.step channel (.change change)).2.counters =
    judged change (channel.exchange x.switch change.batch).1 x.counters := rfl
  unfold countersAfter
  rw [settle_change, next]
  cases verdict : (channel.exchange x.switch change.batch).1.judge with
  | error e =>
    have same :
        judged change (channel.exchange x.switch change.batch).1 x.counters = x.counters := by
      simp only [judged, verdict]
    rw [same] at counted
    simp only [Stage.next, verdict, finish, count, counted]
    exact ⟨_, .failure e, rfl⟩
  | ok v =>
    simp only [Stage.next, verdict, finish, count, counted]
    cases v with
    | success =>
      cases direction : change.direction with
      | apply => exact ⟨_, .applied change rfl, by simp only [judged, verdict, direction]⟩
      | remove => exact ⟨_, .removed change rfl, by simp only [judged, verdict, direction]⟩
    | benign => exact ⟨_, .benign change, by simp only [judged, verdict]⟩

theorem credits_terminal (x : Exporter σ) {s : Stage} {d : Direction} (aims : s.Aims d)
    (terminal : s.terminal = true) :
    ∃ c, Credits d x.counters (x.settle channel s).1 c ∧
      x.countersAfter channel s = c.latency Double.zero := by
  unfold countersAfter
  rw [settle_of_terminal channel x terminal]
  cases s with
  | lookup | change => simp [Stage.terminal] at terminal
  | done c =>
    obtain rfl : c = none := aims
    exact ⟨_, .nothing, rfl⟩
  | failed e => exact ⟨_, .failure e, rfl⟩

theorem credits_settle (x : Exporter σ) {s : Stage} {d : Direction} (aims : s.Aims d) :
    ∃ c, Credits d x.counters (x.settle channel s).1 c ∧
      x.countersAfter channel s = c.latency Double.zero := by
  cases s with
  | done | failed => exact credits_terminal channel x aims rfl
  | change c =>
    obtain rfl : c.direction = d := aims
    exact credits_change channel x c
  | lookup l e =>
    obtain rfl : e = d := aims
    have next : ((x.step channel (.lookup l e)).1).Aims e := Stage.aims_next l e _
    have counters : (x.step channel (.lookup l e)).2.counters = x.counters := rfl
    have less := rank_step_lt channel x (s := .lookup l e) rfl
    unfold countersAfter
    rw [settle_step, ← counters]
    cases after : (x.step channel (.lookup l e)).1 with
    | lookup => simp [after, Stage.rank] at less
    | change c =>
      have aims : (Stage.change c).Aims e := after ▸ next
      obtain rfl : c.direction = e := aims
      exact credits_change channel _ c
    | done | failed => exact credits_terminal channel _ (after ▸ next) rfl

/-- Apart from the siblings that planning met, a run is counted once, for the way in which it ends,
and its latency is observed once. -/
theorem run_credits (x : Exporter σ) (i : Intent) (d : Direction) :
    ∃ met c, Credits d (x.counters.duplicate met) (x.run channel store i d).1 c ∧
      (x.run channel store i d).2.counters = c.latency Double.zero :=
  ⟨_, credits_settle channel (x.plan store i d).2 (Stage.aims_plan store i d)⟩

/-! ## Many runs -/

/-- Runs operations one after the other. -/
def runAll (x : Exporter σ) : List (Intent × Direction) → List Stage × Exporter σ
  | [] => ([], x)
  | (i, d) :: rest =>
    let (s, x) := x.run channel store i d
    let (stages, x) := runAll x rest
    (s :: stages, x)

theorem runAll_concat (x : Exporter σ) (ops : List (Intent × Direction)) (i : Intent)
    (d : Direction) :
    (runAll channel store x (ops ++ [(i, d)])).2 =
      ((runAll channel store x ops).2.run channel store i d).2 := by
  induction ops generalizing x with
  | nil => rfl
  | cons o ops ih => exact ih _

/-- The counters of all operations that ended in a change or in a failure. -/
def ended (c : RouteCounters) : Nat := c.applied + c.removed + c.noop + c.failures

theorem ended_credits {d : Direction} {c c' : RouteCounters} {s : Stage} (h : Credits d c s c') :
    ended c' + (if s = .done none then 1 else 0) = ended c + 1 := by
  cases h <;>
    simp [ended, RouteCounters.routeApplied, RouteCounters.routeRemoved, RouteCounters.benign,
      RouteCounters.failure] <;> omega

theorem latencies_credits {d : Direction} {c c' : RouteCounters} {s : Stage}
    (h : Credits d c s c') : c'.latencies = c.latencies := by
  cases h <;> rfl

theorem runAll_conserves (x : Exporter σ) (ops : List (Intent × Direction)) :
    let (stages, y) := runAll channel store x ops
    stages.length = ops.length ∧
      ended y.counters + stages.count (.done none) = ended x.counters + ops.length ∧
      y.counters.latencies.length = x.counters.latencies.length + ops.length := by
  induction ops generalizing x with
  | nil => exact ⟨rfl, rfl, rfl⟩
  | cons o ops ih =>
    obtain ⟨i, d⟩ := o
    obtain ⟨met, c, credits, counters⟩ := run_credits channel store x i d
    obtain ⟨length, sum, latencies⟩ := ih (x.run channel store i d).2
    have one := ended_credits credits
    have same := latencies_credits credits
    have before : ended (x.counters.duplicate met) = ended x.counters := rfl
    have after : ended (c.latency Double.zero) = ended c := rfl
    rw [before] at one
    rw [counters, after] at sum
    rw [counters] at latencies
    simp only [RouteCounters.latency, same, RouteCounters.duplicate, List.length_append,
      List.length_singleton] at latencies
    simp only [runAll, List.length_cons, List.count_cons, beq_iff_eq]
    exact ⟨by omega, by omega, by omega⟩

/-! ## Sessions -/

/-- What happens to an exporter: an operation is submitted, or the first job is run. -/
inductive Move
  | submit (i : Intent) (d : Direction)
  | work

def Move.operation? : Move → Option (Intent × Direction)
  | .submit i d => some (i, d)
  | .work => none

def move (x : Exporter σ) : Move → Exporter σ
  | .submit i d => (x.submit (.route i d)).2
  | .work => x.runFirst channel store

/-- The exporter with other work. -/
def withWork (x : Exporter σ) (queue : List Job) (accepts : Nat → Bool) (offered : Nat) :
    Exporter σ :=
  { x with queue := queue, accepts := accepts, offered := offered }

theorem settle_withWork (x : Exporter σ) (s : Stage) (queue : List Job) (accepts : Nat → Bool)
    (offered : Nat) :
    (x.withWork queue accepts offered).settle channel s =
      ((x.settle channel s).1, (x.settle channel s).2.withWork queue accepts offered) := by
  fun_induction settle channel x s with
  | case1 x s terminal => exact settle_of_terminal channel _ terminal
  | case2 x s _ _ ih =>
    have step : (x.withWork queue accepts offered).step channel s =
        ((x.step channel s).1, (x.step channel s).2.withWork queue accepts offered) := by
      cases s <;> rfl
    rw [settle_step, step]
    exact ih

/-- A run does not depend on what else is to be done. -/
theorem run_withWork (x : Exporter σ) (i : Intent) (d : Direction) (queue : List Job)
    (accepts : Nat → Bool) (offered : Nat) :
    ((x.withWork queue accepts offered).run channel store i d).2 =
      (x.run channel store i d).2.withWork queue accepts offered := by
  have settled := settle_withWork channel (x.plan store i d).2 (Stage.plan store i d) queue accepts
    offered
  change (((x.plan store i d).2.withWork queue accepts offered).settle channel _).2.finish
    (((x.plan store i d).2.withWork queue accepts offered).settle channel _).1 = _
  rw [settled]
  rfl

/-- Of the offers that were taken the first have been run in their order, and the others wait. -/
def Underway (switch : σ) (accepts : Nat → Bool) (offers : List (Intent × Direction))
    (x : Exporter σ) : Prop :=
  ∃ ran waiting, taken accepts 0 offers = ran ++ waiting ∧
    x = (runAll channel store (fresh switch) ran).2.withWork
      (waiting.map fun o => .route o.1 o.2) accepts offers.length

variable {channel store} {switch : σ} {accepts : Nat → Bool} {offers : List (Intent × Direction)}
  {x : Exporter σ}

theorem Underway.submit (h : Underway channel store switch accepts offers x) (i : Intent)
    (d : Direction) :
    Underway channel store switch accepts (offers ++ [(i, d)]) (x.submit (.route i d)).2 := by
  obtain ⟨ran, waiting, split, rfl⟩ := h
  cases now : accepts offers.length with
  | true =>
    refine ⟨ran, waiting ++ [(i, d)], ?_, ?_⟩
    · simp [taken_append, taken, now, split]
    · simp [Exporter.submit, withWork, now]
  | false =>
    refine ⟨ran, waiting, ?_, ?_⟩
    · simp [taken_append, taken, now, split]
    · simp [Exporter.submit, withWork, now]

theorem Underway.work (h : Underway channel store switch accepts offers x) :
    Underway channel store switch accepts offers (x.runFirst channel store) := by
  obtain ⟨ran, waiting, split, rfl⟩ := h
  cases waiting with
  | nil =>
    rw [runFirst_nil channel store rfl]
    exact ⟨ran, [], split, rfl⟩
  | cons o waiting =>
    obtain ⟨i, d⟩ := o
    refine ⟨ran ++ [(i, d)], waiting, ?_, ?_⟩
    · simp [split]
    · rw [runFirst_cons channel store rfl, runAll_concat, ← run_withWork]
      rfl

theorem Underway.move (h : Underway channel store switch accepts offers x) (m : Move) :
    Underway channel store switch accepts (offers ++ m.operation?.toList)
      (x.move channel store m) := by
  cases m with
  | submit i d => exact h.submit i d
  | work => exact (List.append_nil offers).symm ▸ h.work

theorem Underway.moves (h : Underway channel store switch accepts offers x) (moves : List Move) :
    Underway channel store switch accepts (offers ++ moves.filterMap Move.operation?)
      (moves.foldl (Exporter.move channel store) x) := by
  induction moves generalizing offers x with
  | nil => simpa using h
  | cons m moves ih =>
    have rest := ih (h.move m)
    rw [List.append_assoc] at rest
    cases m <;> exact rest

theorem Underway.drainUpTo (h : Underway channel store switch accepts offers x) (bound : Nat) :
    Underway channel store switch accepts offers (drainUpTo channel store bound x).2 := by
  induction bound generalizing x with
  | zero => exact h
  | succ bound ih =>
    rw [drainUpTo_succ]
    exact ih h.work

variable (channel store)

/-- Submissions and work on the queue in any order, and then the queue is drained. The exporter is
left as after running the operations that were taken one after the other, and nothing else. Each run
is counted once, so the counters add up to the number of runs, which is that of the latencies; what
is read of the counters adds up to it as words do. -/
theorem session_conserves (switch : σ) (accepts : Nat → Bool) (moves : List Move) :
    let x := moves.foldl (move channel store) { fresh switch with accepts := accepts }
    let y := (x.drain channel store).2
    let offers := moves.filterMap Move.operation?
    let (stages, z) := runAll channel store (fresh switch) (taken accepts 0 offers)
    y = { z with queue := [], accepts := accepts, offered := offers.length } ∧
      stages.length = (taken accepts 0 offers).length ∧
      y.counters.applied + y.counters.removed + y.counters.noop + y.counters.failures +
        stages.count (.done none) = stages.length ∧
      y.counters.latencies.length = stages.length ∧
      reading (reading y.counters.applied + reading y.counters.removed +
        reading y.counters.noop + reading y.counters.failures + stages.count (.done none)) =
          reading stages.length ∧
      ∀ (w : Exporter σ) (i : Intent) (d : Direction), ∃ met c,
        Credits d (w.counters.duplicate met) (w.run channel store i d).1 c ∧
          (w.run channel store i d).2.counters = c.latency Double.zero := by
  intro x y offers
  have start : Underway channel store switch accepts [] { fresh switch with accepts := accepts } :=
    ⟨[], [], rfl, rfl⟩
  obtain ⟨ran, waiting, split, left⟩ := (start.moves moves).drainUpTo (load store x.queue)
  have empty : y.queue = [] := drain_queue channel store x
  have queue : y.queue = waiting.map fun o => .route o.1 o.2 := congrArg Exporter.queue left
  obtain rfl : waiting = [] := List.map_eq_nil_iff.1 (queue.symm.trans empty)
  obtain rfl : taken accepts 0 offers = ran := split.trans (List.append_nil ran)
  have same : y = { (runAll channel store (fresh switch) (taken accepts 0 offers)).2 with
      queue := [], accepts := accepts, offered := offers.length } := left
  obtain ⟨length, sum, latencies⟩ :=
    runAll_conserves channel store (fresh switch) (taken accepts 0 offers)
  have total : y.counters.applied + y.counters.removed + y.counters.noop + y.counters.failures +
      (runAll channel store (fresh switch) (taken accepts 0 offers)).1.count (.done none) =
        (taken accepts 0 offers).length := by
    rw [same]
    simpa [ended, fresh, RouteCounters.zero] using sum
  refine ⟨same, length, total.trans length.symm, ?_, ?_, run_credits channel store⟩
  · rw [same, length]
    simpa [fresh, RouteCounters.zero] using latencies
  · rw [length, ← total]
    exact reading_add (reading_add (reading_add (reading_add (reading_reading _)
      (reading_reading _)) (reading_reading _)) (reading_reading _)) rfl

end Exporter

end LeaseRoutes
