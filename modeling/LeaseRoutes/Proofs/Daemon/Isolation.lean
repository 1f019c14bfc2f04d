import LeaseRoutes.Proofs.Daemon.Lines
import LeaseRoutes.Proofs.Exporter.Queue
import LeaseRoutes.Proofs.Heartbeat.Watch
/-!
Whatever happens between its lines, a daemon does what it would do if it were given the operations
alone that its lines ask for, each once and in their order.
-/

namespace LeaseRoutes

open Switch

/-! ## Counting duplicates -/

namespace Exporter

variable {σ : Type} (channel : Channel σ) (store : LeaseStore) (k : Nat)

/-- The exporter once more duplicates were counted. -/
def noted (x : Exporter σ) (k : Nat) : Exporter σ := x.count fun c => c.duplicate k

/-- The exporter without the count of duplicates. -/
def plain (x : Exporter σ) : Exporter σ := x.count fun c => { c with duplicates := 0 }

theorem noted_plain (x : Exporter σ) : x.plain.noted x.counters.duplicates = x := by
  simp [noted, plain, count, Metrics.RouteCounters.duplicate]

/-- Counting commutes with counting duplicates. -/
theorem noted_count (x : Exporter σ) (f : Metrics.RouteCounters → Metrics.RouteCounters)
    (apart : ∀ c, f (c.duplicate k) = (f c).duplicate k) :
    (x.noted k).count f = (x.count f).noted k := by
  simp only [noted, count, apart]

theorem judged_duplicate (c : Change) (r : Reply) (counters : Metrics.RouteCounters) :
    judged c r (counters.duplicate k) = (judged c r counters).duplicate k := by
  unfold judged
  split <;> rfl

theorem noted_comm (x : Exporter σ) (n : Nat) : (x.noted k).noted n = (x.noted n).noted k := by
  simp only [noted, count, Metrics.RouteCounters.duplicate, Nat.add_right_comm]

theorem noted_step (x : Exporter σ) (s : Stage) :
    (x.noted k).step channel s = ((x.step channel s).1, (x.step channel s).2.noted k) := by
  cases s with
  | lookup | done | failed => rfl
  | change c =>
    have counted := noted_count k (x.send channel c.batch).2
      (judged c (x.send channel c.batch).1) (judged_duplicate k c _)
    exact congrArg (Prod.mk _) counted

theorem noted_settle (x : Exporter σ) (s : Stage) :
    (x.noted k).settle channel s = ((x.settle channel s).1, (x.settle channel s).2.noted k) := by
  fun_induction settle channel x s with
  | case1 x s terminal => exact settle_of_terminal channel _ terminal
  | case2 x s _ _ ih =>
    rw [settle_step, noted_step]
    exact ih

theorem noted_finish (x : Exporter σ) (s : Stage) : (x.noted k).finish s = (x.finish s).noted k := by
  cases s <;> rfl

theorem noted_run (x : Exporter σ) (i : Intent) (d : Direction) :
    ((x.noted k).run channel store i d).2 = (x.run channel store i d).2.noted k := by
  have planned : ((x.noted k).plan store i d).2 = (x.plan store i d).2.noted k :=
    noted_comm k x (if Stage.ambiguous store i d then 1 else 0)
  change (((x.noted k).plan store i d).2.settle channel _).2.finish
    (((x.noted k).plan store i d).2.settle channel _).1 = _
  rw [planned, noted_settle]
  exact noted_finish k _ _

theorem noted_submitRoutes (x : Exporter σ) (intents : List Intent) :
    (x.noted k).submitRoutes intents = (x.submitRoutes intents).noted k := by
  induction intents generalizing x with
  | nil => rfl
  | cons i intents ih => exact ih (x.submit (.route i .apply)).2

theorem noted_resync (x : Exporter σ) (map : HardwareMap) :
    ((x.noted k).resync store map).2 = (x.resync store map).2.noted k := by
  have planned : ((x.noted k).planResync store map).2 = (x.planResync store map).2.noted k :=
    noted_comm k x (Resync.ambiguities store)
  change (((x.noted k).planResync store map).2.submitRoutes (Resync.intents store map)).count
    (fun c => c.skip (Resync.report store map).skipped) = _
  rw [planned, noted_submitRoutes]
  exact noted_count k _ _ fun _ => rfl

theorem noted_runJob (x : Exporter σ) (job : Job) :
    (x.noted k).runJob channel store job = (x.runJob channel store job).noted k := by
  cases job with
  | route i d => exact noted_run channel store k x i d
  | survey => rfl
  | resync =>
    have surveyed : (x.noted k).survey channel =
      ((x.survey channel).1, (x.survey channel).2.noted k) := rfl
    simp only [runJob, surveyed]
    cases result : x.survey channel with
    | mk map y =>
      cases map with
      | ok map => exact noted_resync store k y map
      | error => rfl

theorem noted_runFirst (x : Exporter σ) :
    (x.noted k).runFirst channel store = (x.runFirst channel store).noted k := by
  cases queue : x.queue with
  | nil => rw [runFirst_nil channel store queue, runFirst_nil (x := x.noted k) channel store queue]
  | cons job rest =>
    rw [runFirst_cons channel store queue, runFirst_cons (x := x.noted k) channel store queue]
    exact noted_runJob channel store k { x with queue := rest } job

theorem noted_drainUpTo (bound : Nat) (x : Exporter σ) :
    drainUpTo channel store bound (x.noted k) =
      ((drainUpTo channel store bound x).1, (drainUpTo channel store bound x).2.noted k) := by
  induction bound generalizing x with
  | zero => rfl
  | succ bound ih =>
    simp only [drainUpTo, noted_runFirst, ih]
    cases empty : x.queue.isEmpty with
    | true => simp [noted, count, empty]
    | false => simp [noted, count, empty]

theorem noted_restored (x : Exporter σ) : (x.noted k).restored = x.restored.noted k := by
  cases taken : x.accepts x.offered <;> simp [restored, submit, failed, noted, count, taken]

end Exporter

namespace Heartbeat.Watch

variable {σ : Type} (channel : Channel σ) (store : LeaseStore) (k : Nat)

def noted (w : Watch σ) (k : Nat) : Watch σ := { w with exporter := w.exporter.noted k }

theorem noted_advance (w : Watch σ) (x : Exporter σ) :
    (w.noted k).advance (x.noted k) = (w.advance x).noted k := by
  rw [advance_eq, advance_eq]
  rfl

theorem noted_tick (w : Watch σ) :
    ((w.noted k).tick channel .resync).2 = (w.tick channel .resync).2.noted k := by
  cases alive : w.monitor with
  | none => simp [tick, noted, alive]
  | some m =>
    cases taken : m.take (channel.exchange w.exporter.switch probe).1 with
    | mk t n =>
      rw [tick_of_take channel w alive taken, tick_of_take channel (w.noted k) alive taken]
      by_cases restored : t = .discontinuity
      · simp only [restored, ↓reduceIte]
        rw [← noted_advance, ← Exporter.noted_restored]
        rfl
      · simp only [restored, ↓reduceIte]
        rfl

theorem noted_runFirst (w : Watch σ) :
    (w.noted k).runFirst channel store = (w.runFirst channel store).noted k := by
  rw [runFirst, runFirst, ← noted_advance, ← Exporter.noted_runFirst]
  rfl

theorem noted_drain (w : Watch σ) :
    ((w.noted k).drain channel store).2 = (w.drain channel store).2.noted k := by
  have drained := Exporter.noted_drainUpTo channel store k (Exporter.load store w.exporter.queue)
    w.exporter
  change (w.noted k).advance (Exporter.drainUpTo channel store
    (Exporter.load store w.exporter.queue) (w.exporter.noted k)).2 = _
  rw [drained]
  exact noted_advance k w _

end Heartbeat.Watch

namespace Service

variable {σ : Type} (network : Http.Network σ) {s t : Service σ}

def noted (s : Service σ) (k : Nat) : Service σ := { s with watch := s.watch.noted k }

/-- The service without the count of duplicates. -/
def plain (s : Service σ) : Service σ := { s with watch.exporter := s.watch.exporter.plain }

theorem noted_plain (s : Service σ) : s.plain.noted s.watch.exporter.counters.duplicates = s := by
  have exporter := s.watch.exporter.noted_plain
  simp only [noted, plain, Heartbeat.Watch.noted, exporter]

/-- What does not look at the count of duplicates does the same whatever it is. -/
theorem plain_congr {f : Service σ → Service σ} (apart : ∀ s k, f (s.noted k) = (f s).noted k)
    (same : s.plain = t.plain) : (f s).plain = (f t).plain := by
  have strip (s : Service σ) : (f s).plain = (f s.plain).plain := by
    conv => lhs; rw [← noted_plain s, apart]
    rfl
  rw [strip s, strip t, same]

theorem noted_tick (s : Service σ) (k : Nat) :
    (s.noted k).tick network = (s.tick network).noted k :=
  congrArg (fun w => { s with watch := w }) (s.watch.noted_tick (s.client.channel network) k)

theorem noted_workFirst (s : Service σ) (k : Nat) :
    (s.noted k).workFirst network = (s.workFirst network).noted k :=
  congrArg (fun w => { s with watch := w })
    (s.watch.noted_runFirst (s.client.channel network) s.store k)

theorem noted_work (s : Service σ) (k : Nat) :
    (s.noted k).work network = (s.work network).noted k :=
  congrArg (fun w => { s with watch := w })
    (s.watch.noted_drain (s.client.channel network) s.store k)

end Service

/-! ## Turns -/

namespace Daemon

/-- What happens to a daemon: it takes something, probes the switch, or does the first piece or all
of the work that is queued. -/
inductive Turn (α : Type)
  | take (a : α)
  | probe
  | work
  | workAll

namespace Turn

variable {α β : Type}

def item? : Turn α → Option α
  | .take a => some a
  | .probe | .work | .workAll => none

/-- The turn with what is made of the thing that it takes. -/
def filterMap? (f : α → Option β) : Turn α → Option (Turn β)
  | .take a => (f a).map .take
  | .probe => some .probe
  | .work => some .work
  | .workAll => some .workAll

theorem items_filterMap? (f : α → Option β) (turns : List (Turn α)) :
    (turns.filterMap (filterMap? f)).filterMap item? = (turns.filterMap item?).filterMap f := by
  rw [List.filterMap_filterMap, List.filterMap_filterMap]
  congr 1
  funext t
  cases t with
  | take a => cases made : f a <;> simp [filterMap?, item?, made]
  | probe | work | workAll => rfl

end Turn

section Runs

variable {σ : Type} (network : Http.Network σ)

def turn (d : Daemon σ) : Turn String → Daemon σ
  | .take line => d.take line
  | .probe => d.tick network
  | .work => d.workFirst network
  | .workAll => d.work network

/-- Takes lines, with probes and work between them. -/
def run (d : Daemon σ) (turns : List (Turn String)) : Daemon σ := turns.foldl (turn network) d

/-- Submits an operation, and says whether it was taken. -/
def submit (d : Daemon σ) (o : Intent × Direction) : Bool × Daemon σ :=
  let (taken, x) := d.service.watch.exporter.submit (.route o.1 o.2)
  (taken, { d with
    service.watch.exporter := x
    queued := d.queued + if taken then 1 else 0 })

/-- Submits operations, with probes and work between them. Tells which of them were taken. -/
def feed (d : Daemon σ) : List (Turn (Intent × Direction)) →
    List ((Intent × Direction) × Bool) × Daemon σ
  | [] => ([], d)
  | .take o :: turns =>
    let (taken, d) := d.submit o
    let (answers, d) := d.feed turns
    ((o, taken) :: answers, d)
  | .probe :: turns => (d.tick network).feed turns
  | .work :: turns => (d.workFirst network).feed turns
  | .workAll :: turns => (d.work network).feed turns

/-- The daemons differ at most in the lines that they have seen and in how many duplicates they
have counted. -/
def Alike (d e : Daemon σ) : Prop := d.service.plain = e.service.plain ∧ d.queued = e.queued

variable {network} {d e : Daemon σ}

theorem Alike.store (h : Alike d e) : d.service.store = e.service.store := by
  have same := congrArg Service.store h.1
  exact same

theorem Alike.queue (h : Alike d e) :
    d.service.watch.exporter.queue = e.service.watch.exporter.queue := by
  have same := congrArg (fun s : Service σ => s.watch.exporter.queue) h.1
  exact same

theorem Alike.symm (h : Alike d e) : Alike e d := ⟨h.1.symm, h.2.symm⟩

theorem Alike.trans {c : Daemon σ} (h : Alike c d) (k : Alike d e) : Alike c e :=
  ⟨h.1.trans k.1, h.2.trans k.2⟩

theorem Alike.probe (h : Alike d e) : Alike (d.tick network) (e.tick network) :=
  ⟨Service.plain_congr (Service.noted_tick network) h.1, h.2⟩

theorem Alike.work (h : Alike d e) : Alike (d.workFirst network) (e.workFirst network) :=
  ⟨Service.plain_congr (Service.noted_workFirst network) h.1, h.2⟩

theorem Alike.workAll (h : Alike d e) : Alike (d.work network) (e.work network) :=
  ⟨Service.plain_congr (Service.noted_work network) h.1, h.2⟩

theorem Alike.submit (h : Alike d e) (o : Intent × Direction) :
    (d.submit o).1 = (e.submit o).1 ∧ Alike (d.submit o).2 (e.submit o).2 := by
  have taken := congrArg (fun s : Service σ =>
    s.watch.exporter.accepts s.watch.exporter.offered) h.1
  refine ⟨taken, ?_, ?_⟩
  · exact Service.plain_congr (f := fun s =>
      { s with watch.exporter := (s.watch.exporter.submit (.route o.1 o.2)).2 })
      (fun _ _ => rfl) h.1
  · exact congrArg₂ (fun queued taken => queued + if taken = true then 1 else 0) h.2 taken

/-- A line is worth the operation that it asks for. -/
theorem take_alike (d : Daemon σ) (line : String) :
    Alike (d.take line) (match operation? d.service.store line with
      | some o => (d.submit o).2
      | none => d) := by
  by_cases blank : Text.Blank line
  · have nothing := (operation?_eq_none_iff d.service.store line).2 (.inl blank)
    rw [nothing, take, if_pos blank]
    exact ⟨rfl, rfl⟩
  · rw [take, if_neg blank]
    cases read : LeaseEvent.ofText line with
    | error f =>
      simp only [operation?, read]
      exact ⟨rfl, rfl⟩
    | ok e =>
      cases consequence : e.consequence d.service.store with
      | error f =>
        simp only [operation?, read, consequence, handle, Service.handle, Exporter.handle]
        exact ⟨rfl, rfl⟩
      | ok operation =>
        cases operation with
        | none =>
          simp only [operation?, read, consequence, handle, Service.handle, Exporter.handle]
          exact ⟨rfl, rfl⟩
        | some o =>
          simp only [operation?, read, consequence, handle, Service.handle, Exporter.handle]
          exact ⟨rfl, rfl⟩

/-- A run over lines is a run over the operations that they ask for. -/
theorem run_alike {store : LeaseStore} (h : Alike d e) (known : d.service.store = store)
    (turns : List (Turn String)) :
    Alike (d.run network turns)
      (e.feed network (turns.filterMap (Turn.filterMap? (operation? store)))).2 := by
  induction turns generalizing d e with
  | nil => exact h
  | cons t turns ih =>
    cases t with
    | probe => exact ih h.probe known
    | work => exact ih h.work known
    | workAll => exact ih h.workAll known
    | take line =>
      have step := take_alike d line
      rw [known] at step
      cases asked : operation? store line with
      | none =>
        rw [asked] at step
        rw [List.filterMap_cons_none (by simp [Turn.filterMap?, asked])]
        exact ih (step.trans h) (step.store.trans known)
      | some o =>
        rw [asked] at step
        rw [List.filterMap_cons_some (b := .take o) (by simp [Turn.filterMap?, asked])]
        exact ih (step.trans (h.submit o).2) (step.store.trans known)

theorem feed_items (d : Daemon σ) (turns : List (Turn (Intent × Direction))) :
    (d.feed network turns).1.map Prod.fst = turns.filterMap Turn.item? := by
  induction turns generalizing d with
  | nil => rfl
  | cons t turns ih =>
    cases t with
    | take o => exact congrArg (o :: ·) (ih (d.submit o).2)
    | probe => exact ih (d.tick network)
    | work => exact ih (d.workFirst network)
    | workAll => exact ih (d.work network)

/-- What was taken is counted. -/
theorem feed_queued (d : Daemon σ) (turns : List (Turn (Intent × Direction))) :
    (d.feed network turns).2.queued =
      d.queued + (d.feed network turns).1.countP (fun answer => answer.2) := by
  induction turns generalizing d with
  | nil => rfl
  | cons t turns ih =>
    cases t with
    | take o =>
      have counted : (d.submit o).2.queued =
        d.queued + if (d.submit o).1 = true then 1 else 0 := rfl
      change ((d.submit o).2.feed network turns).2.queued =
        d.queued + List.countP _ ((o, (d.submit o).1) :: ((d.submit o).2.feed network turns).1)
      rw [ih, counted, List.countP_cons]
      dsimp only
      omega
    | probe => exact ih (d.tick network)
    | work => exact ih (d.workFirst network)
    | workAll => exact ih (d.work network)

/-- Submitting alone puts at the end of the queue what is taken. -/
theorem feed_take (network : Http.Network σ) (d : Daemon σ) (offers : List (Intent × Direction)) :
    let x := d.service.watch.exporter
    let kept := Exporter.taken x.accepts x.offered offers
    let y := (d.feed network (offers.map .take)).2
    y.service.watch.exporter.queue = x.queue ++ kept.map (fun o => .route o.1 o.2) ∧
      y.queued = d.queued + kept.length := by
  induction offers generalizing d with
  | nil => exact ⟨(List.append_nil _).symm, rfl⟩
  | cons o offers ih =>
    obtain ⟨queue, queued⟩ := ih (d.submit o).2
    simp only [submit, Exporter.submit] at queue queued
    simp only [List.map_cons, feed, submit, Exporter.submit, Exporter.taken]
    rw [queue, queued]
    by_cases now : d.service.watch.exporter.accepts d.service.watch.exporter.offered = true
    · simp [now, Nat.add_assoc, Nat.add_comm 1]
    · simp [now]

theorem takeAll_eq_run (d : Daemon σ) (input : String) :
    d.takeAll network input =
      d.run network ((linesOf input).flatMap fun line => [.take line, .workAll]) := by
  rw [run, List.foldl_flatMap]
  rfl

/-- Whatever happens between its lines, a daemon does what it would do if it were given only the
operations that the lines ask for, each once and in their order, and it counts those that are
taken. So lines that ask for none may be put in, left out or changed. -/
theorem lines_isolated (network : Http.Network σ) (d : Daemon σ) :
    let store := d.service.store
    let asked (turns : List (Turn String)) : List (Turn (Intent × Direction)) :=
      turns.filterMap (Turn.filterMap? (operation? store))
    (∀ turns,
      let (answers, bare) := d.feed network (asked turns)
      Alike (d.run network turns) bare ∧
      answers.map Prod.fst = (turns.filterMap Turn.item?).filterMap (operation? store) ∧
      (d.run network turns).queued = d.queued + answers.countP fun answer => answer.2) ∧
    (∀ turns others, asked turns = asked others →
      Alike (d.run network turns) (d.run network others)) ∧
    (∀ input,
      let x := d.service.watch.exporter
      let kept := Exporter.taken x.accepts x.offered (operations store input)
      let out := (linesOf input).foldl take d
      out.service.watch.exporter.queue = x.queue ++ kept.map (fun o => .route o.1 o.2) ∧
      out.queued = d.queued + kept.length) ∧
    (∀ input, d.takeAll network input =
      d.run network ((linesOf input).flatMap fun line => [.take line, .workAll])) ∧
    (∀ before bad after, Ended before → Ended bad ∨ after = "" →
      (∀ line ∈ linesOf bad, Inert store line) →
      operations store (before ++ bad ++ after) = operations store (before ++ after)) ∧
    ∀ input lines, linesOf input = lines ↔ Breaks (lines.map String.toList) input.toList := by
  intro store asked
  have alike (turns : List (Turn String)) :
      Alike (d.run network turns) (d.feed network (asked turns)).2 :=
    run_alike ⟨rfl, rfl⟩ rfl turns
  refine ⟨?_, ?_, ?_, takeAll_eq_run d, ?_, linesOf_eq_iff⟩
  · intro turns
    refine ⟨alike turns, ?_, ?_⟩
    · rw [feed_items, Turn.items_filterMap?]
    · rw [(alike turns).2, feed_queued]
  · intro turns others same
    exact (alike turns).trans (same ▸ (alike others).symm)
  · intro input x kept out
    have lines : out = d.run network ((linesOf input).map .take) := by
      rw [run, List.foldl_map]
      rfl
    have offers : asked ((linesOf input).map .take) = (operations store input).map .take := by
      simp only [asked, operations, List.filterMap_map, List.map_filterMap]
      rfl
    have same := alike ((linesOf input).map .take)
    rw [offers, ← lines] at same
    obtain ⟨queue, queued⟩ := feed_take network d (operations store input)
    exact ⟨same.queue.trans queue, same.2.trans queued⟩
  · intro before bad after begun ended inert
    exact operations_of_inert after begun ended inert

end Runs

end Daemon

end LeaseRoutes
