import LeaseRoutes.Proofs.Heartbeat.Watch
/-!
A monitor whose restored connection is resynced, followed together with the history of what was
done. Each job carries the number of the discontinuity that it serves. As long as the monitor is up
the last discontinuity is being served: its resync is still in the queue, or has brought a map,
every route of which was asserted or is still in the queue.
-/

namespace LeaseRoutes.Heartbeat

open Switch (Channel HardwareMap)

/-- What was done. A survey and a route that was run carry the number of the discontinuity that
they served. -/
inductive Deed
  | probed (t : Transition)
  | surveyed (serves : Nat) (map : Except Switch.Fault HardwareMap)
  | ran (serves : Nat) (i : Intent) (d : Switch.Direction)

def Deed.isDiscontinuity : Deed → Bool
  | .probed .discontinuity => true
  | _ => false

/-- The number of discontinuities. -/
def discontinuities (past : List Deed) : Nat := past.countP Deed.isDiscontinuity

/-- A watch with its history. The jobs are those of the exporter's queue. -/
structure Chronicle (σ : Type) where
  watch : Watch σ
  jobs : List (Nat × Job)
  past : List Deed

namespace Chronicle

variable {σ : Type} (channel : Channel σ) (store : LeaseStore)

/-- Nothing has been done. The queue may refuse anything. -/
def start (switch : σ) (accepts : Nat → Bool) : Chronicle σ where
  watch := ⟨{ Exporter.fresh switch with accepts := accepts }, some .fresh⟩
  jobs := []
  past := []

/-- The jobs of a queue that begins with known ones; those behind them serve one discontinuity. -/
def label (known : List (Nat × Job)) (queue : List Job) (serves : Nat) : List (Nat × Job) :=
  known ++ (queue.drop known.length).map fun job => (serves, job)

/-- The deed that running a job is. -/
def deed (x : Exporter σ) (serves : Nat) : Job → List Deed
  | .route i d => [.ran serves i d]
  | .resync => [.surveyed serves (x.survey channel).1]
  | .survey => []

/-- The switch is probed. A resync that is submitted serves this discontinuity. -/
def tick (c : Chronicle σ) : Chronicle σ :=
  let (transition, w) := c.watch.tick channel .resync
  let past := c.past ++ transition.toList.map .probed
  ⟨w, label c.jobs w.exporter.queue (discontinuities past), past⟩

/-- The first job is run. What it submits serves the same discontinuity. -/
def work (c : Chronicle σ) : Chronicle σ :=
  match c.jobs with
  | [] => c
  | (serves, job) :: rest =>
    let w := c.watch.runFirst channel store
    ⟨w, label rest w.exporter.queue serves, c.past ++ deed channel c.watch.exporter serves job⟩

def callBack (c : Chronicle σ) : Chronicle σ := { c with watch := c.watch.callBack }

def restart (c : Chronicle σ) : Chronicle σ := { c with watch := c.watch.restart }

/-- Probes, runs of jobs, callbacks and restarts in any order. The queue may refuse a resync but
no route. -/
inductive Reachable : Chronicle σ → Prop
  | start (switch : σ) (accepts : Nat → Bool) : Reachable (.start switch accepts)
  | tick {c} : Reachable c → Reachable (c.tick channel)
  | work {c} : Reachable c → c.watch.Takes channel store → Reachable (c.work channel store)
  | callBack {c} : Reachable c → Reachable c.callBack
  | restart {c} : Reachable c → Reachable c.restart

/-! ## The invariant -/

/-- The resync of a discontinuity waits, or it has brought a map of which every route was asserted
or waits. -/
def Serving (serves : Nat) (after : List Deed) (jobs : List (Nat × Job)) : Prop :=
  (serves, .resync) ∈ jobs ∨
    ∃ map, .surveyed serves (.ok map) ∈ after ∧
      ∀ i ∈ Resync.intents store map,
        .ran serves i .apply ∈ after ∨ (serves, .route i .apply) ∈ jobs

/-- There was a discontinuity, and what was done after the last one serves it. -/
def Served (past : List Deed) (jobs : List (Nat × Job)) : Prop :=
  ∃ before after, past = before ++ .probed .discontinuity :: after ∧ discontinuities after = 0 ∧
    Serving store (discontinuities before + 1) after jobs

theorem discontinuities_append (a b : List Deed) :
    discontinuities (a ++ b) = discontinuities a + discontinuities b := List.countP_append

/-- A discontinuity whose resync is taken. -/
theorem served_discontinuity (past : List Deed) (jobs : List (Nat × Job)) :
    let now := past ++ [.probed .discontinuity]
    Served store now (jobs ++ [(discontinuities now, .resync)]) := by
  refine ⟨past, [], rfl, rfl, .inl ?_⟩
  rw [discontinuities_append]
  exact List.mem_append_right _ List.mem_cons_self

/-- Other deeds keep serving the last discontinuity if no job of it is lost. -/
theorem Served.extend {past deeds : List Deed} {jobs next : List (Nat × Job)}
    (h : Served store past jobs) (quiet : discontinuities deeds = 0)
    (resync : ∀ k, (k, .resync) ∈ jobs → Serving store k deeds next)
    (route : ∀ k i, (k, .route i .apply) ∈ jobs →
      .ran k i .apply ∈ deeds ∨ (k, .route i .apply) ∈ next) :
    Served store (past ++ deeds) next := by
  obtain ⟨before, after, rfl, last, serving⟩ := h
  refine ⟨before, after ++ deeds, by simp, ?_, ?_⟩
  · rw [discontinuities_append, last, quiet]
  · rcases serving with waiting | ⟨map, surveyed, routes⟩
    · rcases resync _ waiting with waiting | ⟨map, surveyed, routes⟩
      · exact .inl waiting
      · refine .inr ⟨map, List.mem_append_right _ surveyed, fun i hi => ?_⟩
        exact (routes i hi).imp_left (List.mem_append_right _)
    · refine .inr ⟨map, List.mem_append_left _ surveyed, fun i hi => ?_⟩
      rcases routes i hi with ran | waiting
      · exact .inl (List.mem_append_left _ ran)
      · exact (route _ i waiting).imp_left (List.mem_append_right _)

/-- The first job is run. A resync leaves its routes in the queue, and a route is run. -/
theorem Served.work {past deeds : List Deed} {serves : Nat} {job : Job}
    {rest next : List (Nat × Job)} (h : Served store past ((serves, job) :: rest))
    (quiet : discontinuities deeds = 0) (kept : ∀ j ∈ rest, j ∈ next)
    (resync : job = .resync → Serving store serves deeds next)
    (route : ∀ i, job = .route i .apply → .ran serves i .apply ∈ deeds) :
    Served store (past ++ deeds) next := by
  refine h.extend store quiet (fun k waiting => ?_) fun k i waiting => ?_
  · rcases List.mem_cons.1 waiting with first | waiting
    · obtain ⟨rfl, same⟩ := Prod.mk.inj first
      exact resync same.symm
    · exact .inl (kept _ waiting)
  · rcases List.mem_cons.1 waiting with first | waiting
    · obtain ⟨rfl, same⟩ := Prod.mk.inj first
      exact .inl (route i same.symm)
    · exact .inr (kept _ waiting)

/-- What is true of every reachable history. -/
structure Sound (c : Chronicle σ) : Prop where
  jobs : c.jobs.map Prod.snd = c.watch.exporter.queue
  served : c.watch.Up → Served store c.past c.jobs

theorem label_append (known : List (Nat × Job)) (added : List Job) (serves : Nat) :
    label known (known.map Prod.snd ++ added) serves =
      known ++ added.map fun job => (serves, job) := by
  have dropped : (known.map Prod.snd ++ added).drop known.length = added :=
    List.drop_left' (List.length_map _)
  rw [label, dropped]

/-- Nothing was submitted. -/
theorem label_same (known : List (Nat × Job)) (serves : Nat) :
    label known (known.map Prod.snd) serves = known := by
  simp [label]

theorem sound_start (switch : σ) (accepts : Nat → Bool) : (start switch accepts).Sound store := by
  refine ⟨rfl, ?_⟩
  rintro ⟨m, monitor, up⟩
  obtain rfl := Option.some.inj monitor
  cases up

theorem sound_tick {c : Chronicle σ} (h : c.Sound store) : (c.tick channel).Sound store := by
  let next := c.watch.tick channel .resync
  let past := c.past ++ next.1.toList.map .probed
  let serves := discontinuities past
  have ticked : c.tick channel = ⟨next.2, label c.jobs next.2.exporter.queue serves, past⟩ := rfl
  rw [ticked]
  rcases Watch.tick_spec channel c.watch with ⟨told, queue⟩ | ⟨queue, up⟩
  · have added : next.2.exporter.queue = c.jobs.map Prod.snd ++ [.resync] := h.jobs ▸ queue
    have now : past = c.past ++ [.probed .discontinuity] := by simp only [past, next, told]; rfl
    have jobs : label c.jobs next.2.exporter.queue serves = c.jobs ++ [(serves, .resync)] :=
      added ▸ label_append c.jobs [.resync] serves
    have served : Served store past (c.jobs ++ [(serves, .resync)]) := by
      simp only [serves, now]
      exact served_discontinuity store c.past c.jobs
    rw [jobs]
    exact ⟨by simp [added], fun _ => served⟩
  · have same : next.2.exporter.queue = c.jobs.map Prod.snd := h.jobs ▸ queue
    have jobs : label c.jobs next.2.exporter.queue serves = c.jobs := same ▸ label_same c.jobs serves
    rw [jobs]
    refine ⟨same.symm, fun after => ?_⟩
    obtain ⟨steady, before⟩ := up after
    have now : past = c.past ++ [.probed .steady] := by simp only [past, next, steady]; rfl
    rw [now]
    exact (h.served before).extend store rfl (fun _ => .inl) fun _ _ => .inr

theorem sound_work {c : Chronicle σ} (h : c.Sound store) (taken : c.watch.Takes channel store) :
    (c.work channel store).Sound store := by
  cases queued : c.jobs with
  | nil =>
    have idle : c.work channel store = c := by simp only [work, queued]
    rwa [idle]
  | cons first rest =>
    obtain ⟨serves, job⟩ := first
    let next := c.watch.runFirst channel store
    let deeds := deed channel c.watch.exporter serves job
    have worked : c.work channel store =
        ⟨next, label rest next.exporter.queue serves, c.past ++ deeds⟩ := by
      simp only [work, queued, next, deeds]
    have queue : c.watch.exporter.queue = job :: rest.map Prod.snd := by
      rw [← h.jobs, queued]
      rfl
    have spec := Watch.runFirst_spec channel store c.watch queue taken
    have served : next.monitor = c.watch.monitor → next.Up →
        Served store c.past ((serves, job) :: rest) :=
      fun same ⟨m, alive, up⟩ => queued ▸ h.served ⟨m, same ▸ alive, up⟩
    rw [worked]
    cases job with
    | route i d =>
      obtain ⟨same, monitor⟩ := spec
      have jobs : label rest next.exporter.queue serves = rest := same ▸ label_same rest serves
      rw [jobs]
      refine ⟨same.symm, fun up => (served monitor up).work store rfl (fun _ => id) nofun ?_⟩
      rintro j ⟨⟩
      exact List.mem_cons_self
    | survey =>
      obtain ⟨same, monitor⟩ := spec
      have jobs : label rest next.exporter.queue serves = rest := same ▸ label_same rest serves
      rw [jobs]
      exact ⟨same.symm, fun up => (served monitor up).work store rfl (fun _ => id) nofun nofun⟩
    | resync =>
      cases answer : (c.watch.exporter.survey channel).1 with
      | error e =>
        simp only [answer] at spec
        obtain ⟨same, down⟩ := spec
        have jobs : label rest next.exporter.queue serves = rest := same ▸ label_same rest serves
        rw [jobs]
        exact ⟨same.symm, fun up => absurd up down⟩
      | ok map =>
        simp only [answer] at spec
        obtain ⟨more, monitor⟩ := spec
        let routes : List Job := (Resync.intents store map).map fun i => .route i .apply
        have jobs : label rest next.exporter.queue serves =
            rest ++ routes.map fun job => (serves, job) := more ▸ label_append rest routes serves
        rw [jobs]
        refine ⟨by simp [next, more, routes, Function.comp_def], fun up => ?_⟩
        refine (served monitor up).work store rfl (fun _ => List.mem_append_left _) ?_ nofun
        refine fun _ => .inr ⟨map, by simp [deeds, deed, answer], fun i hi => .inr ?_⟩
        exact List.mem_append_right _ (List.mem_map_of_mem (List.mem_map_of_mem hi))

theorem sound_callBack {c : Chronicle σ} (h : c.Sound store) : c.callBack.Sound store :=
  ⟨h.jobs, fun up => absurd up (Watch.not_up_callBack c.watch)⟩

theorem sound_restart {c : Chronicle σ} (h : c.Sound store) : c.restart.Sound store :=
  ⟨h.jobs, fun up => absurd up (Watch.not_up_restart c.watch)⟩

theorem Reachable.sound {c : Chronicle σ} (h : Reachable channel store c) : c.Sound store := by
  induction h with
  | start switch accepts => exact sound_start store switch accepts
  | tick _ ih => exact sound_tick channel store ih
  | work _ taken ih => exact sound_work channel store ih taken
  | callBack _ ih => exact sound_callBack store ih
  | restart _ ih => exact sound_restart store ih

/-! ## Draining -/

theorem work_watch {c : Chronicle σ} (h : c.Sound store) :
    (c.work channel store).watch = c.watch.runFirst channel store := by
  cases queued : c.jobs with
  | nil =>
    have idle : c.watch.exporter.queue = [] := by rw [← h.jobs, queued]; rfl
    simp only [work, queued, Watch.runFirst, Exporter.runFirst_nil channel store idle,
      Watch.advance_eq, Nat.sub_self]
    rfl
  | cons first rest => simp only [work, queued]

theorem Reachable.iterate {c : Chronicle σ} (h : Reachable channel store c)
    (accepting : ∀ n, c.watch.exporter.offered ≤ n → c.watch.exporter.accepts n = true)
    (count : Nat) :
    ∃ d, Reachable channel store d ∧ d.watch = (Watch.runFirst channel store)^[count] c.watch := by
  induction count generalizing c with
  | zero => exact ⟨c, h, rfl⟩
  | succ count ih =>
    have next := work_watch channel store (h.sound channel store)
    have grows := Exporter.runFirst_grows channel store c.watch.exporter
    have worked := h.work fun n lo _ => accepting n lo
    obtain ⟨d, reachable, same⟩ := ih worked fun n lo => by
      rw [next, Watch.runFirst, Watch.advance_exporter] at lo ⊢
      rw [grows.accepts]
      exact accepting n (Nat.le_trans grows.offered lo)
    exact ⟨d, reachable, by rw [same, next, Function.iterate_succ_apply]⟩

/-- Where the queue takes all that is still to come, draining it leads to a reachable state. -/
theorem Reachable.drain {c : Chronicle σ} (h : Reachable channel store c)
    (accepting : ∀ n, c.watch.exporter.offered ≤ n → c.watch.exporter.accepts n = true) :
    ∃ d, Reachable channel store d ∧ d.watch = (c.watch.drain channel store).2 := by
  obtain ⟨count, drained⟩ := Watch.drain_eq_iterate channel store c.watch
  rw [drained]
  exact h.iterate channel store accepting count

/-! ## Healing -/

/-- While the monitor is up and the queue is empty, the routes of the last discontinuity are all
asserted: its survey brought a map, and every intent of the resync over that map was run. While
the monitor is not up, the next good probe is a discontinuity. -/
theorem heals {c : Chronicle σ} (reachable : Reachable channel store c)
    (idle : c.watch.exporter.queue = []) {m : Monitor} (alive : c.watch.monitor = some m) :
    (m.state.lost = false → ∃ before after map,
      c.past = before ++ .probed .discontinuity :: after ∧ discontinuities after = 0 ∧
      .surveyed (discontinuities before + 1) (.ok map) ∈ after ∧
      ∀ i ∈ Resync.intents store map, .ran (discontinuities before + 1) i .apply ∈ after) ∧
    (m.state.lost = true → ∀ u,
      outcome (channel.exchange c.watch.exporter.switch probe).1 = .ok u →
      (c.watch.tick channel .resync).1 = some .discontinuity) := by
  have sound := reachable.sound channel store
  have empty : c.jobs = [] := List.map_eq_nil_iff.1 (sound.jobs.trans idle)
  constructor
  · intro up
    obtain ⟨before, after, past, last, serving⟩ := sound.served ⟨m, alive, up⟩
    rw [empty] at serving
    rcases serving with waiting | ⟨map, surveyed, routes⟩
    · cases waiting
    · refine ⟨before, after, map, past, last, surveyed, fun i hi => ?_⟩
      rcases routes i hi with ran | waiting
      · exact ran
      · cases waiting
  · intro lost u good
    have taken := (m.take_of_ok good).trans (if_pos (.inl lost))
    rw [Watch.tick_of_take channel c.watch alive taken]

/-! ## A client with one address -/

def sampleChannel : Channel Unit :=
  .answering fun b => if b = .single "show version" then upFor 2 40 else Sample.neighbors

def sampleStore : LeaseStore := .ofList [Sample.host]

def sampleRoute : Intent :=
  ⟨none, 7, some ⟨[0, 1]⟩, .naApplyTo "Vlan5" Sample.host.address, by decide⟩

/-- After a probe and the resync the only route waits. -/
def sampleWaiting : Chronicle Unit :=
  ((start () fun _ => true).tick sampleChannel).work sampleChannel sampleStore

theorem sampleWaiting_accepts : sampleWaiting.watch.exporter.accepts = fun _ => true := rfl

theorem sampleWaiting_queue :
    sampleWaiting.watch.exporter.queue = [.route sampleRoute .apply] := by
  decide +kernel

theorem sampleWaiting_monitor :
    sampleWaiting.watch.monitor = some Monitor.fresh.restored := by
  decide +kernel

theorem heals_sample :
    let c := sampleWaiting.work sampleChannel sampleStore
    ∃ before after map, c.past = before ++ .probed .discontinuity :: after ∧
      discontinuities after = 0 ∧
      .surveyed (discontinuities before + 1) (.ok map) ∈ after ∧
      ∀ i ∈ Resync.intents sampleStore map,
        .ran (discontinuities before + 1) i .apply ∈ after := by
  intro c
  have waiting : Reachable sampleChannel sampleStore sampleWaiting :=
    (Reachable.start () _).tick.work fun _ _ _ => rfl
  have taken : sampleWaiting.watch.Takes sampleChannel sampleStore :=
    fun n _ _ => congrFun sampleWaiting_accepts n
  obtain ⟨idle, monitor⟩ :=
    Watch.runFirst_spec sampleChannel sampleStore sampleWaiting.watch sampleWaiting_queue taken
  exact (heals sampleChannel sampleStore (waiting.work taken) idle
    (monitor.trans sampleWaiting_monitor)).1 rfl

end Chronicle

end LeaseRoutes.Heartbeat
