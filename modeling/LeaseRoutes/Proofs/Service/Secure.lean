import LeaseRoutes.Proofs.Heartbeat.Account
import LeaseRoutes.Proofs.Lease.Outcome
import LeaseRoutes.Service

namespace LeaseRoutes

open Switch

/-! ## Channels that fail -/

/-- A removal that is to be applied. -/
def Intent.Unsupported (i : Intent) (d : Direction) : Prop :=
  d = .apply ∧ ((∃ leased, i.payload = .naRemove leased) ∨ ∃ target, i.payload = .pdRemove target)

/-- Planning alone brings nothing to a good end. -/
theorem Switch.Stage.plan_ne_done (store : LeaseStore) (i : Intent) (d : Direction)
    (c : Option Change) : plan store i d ≠ .done c := by
  intro done
  unfold plan at done
  split at done
  · cases done
  · cases done
  · cases done
  · cases done
  · split at done <;> cases done
  · cases done

theorem Intent.unsupported_of_terminal {store : LeaseStore} {i : Intent} {d : Direction}
    (h : (Stage.plan store i d).terminal = true) : i.Unsupported d := by
  apply (Stage.plan_failed_iff store i d).1
  cases first : Stage.plan store i d with
  | failed f => exact ⟨f, rfl⟩
  | done c => exact absurd first (Stage.plan_ne_done store i d c)
  | lookup | change =>
    rw [first] at h
    cases h

namespace Exporter

variable {σ : Type} (e : TransportFault) (store : LeaseStore)

/-- Over a channel that fails nothing goes on. -/
theorem settle_failing (x : Exporter σ) {s : Stage} (going : s.terminal = false) :
    (x.settle (.failing e) s).1 = .failed (.transport e) ∧
      (x.settle (.failing e) s).2.switch = x.switch := by
  cases s with
  | lookup l d =>
    have next : (x.step (.failing e) (.lookup l d)).1 = .failed (.transport e) := rfl
    rw [settle_step, next, settle_of_terminal _ _ rfl]
    exact ⟨rfl, rfl⟩
  | change c =>
    rw [settle_change]
    exact ⟨rfl, rfl⟩
  | done | failed => cases going

theorem run_failing (x : Exporter σ) (i : Intent) (d : Direction) :
    (i.Unsupported d → (x.run (.failing e) store i d).1 = .failed (.unsupported i.payload)) ∧
    (¬i.Unsupported d → (x.run (.failing e) store i d).1 = .failed (.transport e)) ∧
    (x.run (.failing e) store i d).2.switch = x.switch := by
  have run : x.run (.failing e) store i d =
    (((x.plan store i d).2.settle (.failing e) (Stage.plan store i d)).1,
      ((x.plan store i d).2.settle (.failing e) (Stage.plan store i d)).2.finish
        ((x.plan store i d).2.settle (.failing e) (Stage.plan store i d)).1) := rfl
  refine ⟨?_, ?_, ?_⟩
  · rintro ⟨rfl, removal⟩
    exact (run_unsupported _ store x removal).2
  · intro supported
    have going : (Stage.plan store i d).terminal = false := by
      rw [Bool.eq_false_iff]
      intro terminal
      exact supported (Intent.unsupported_of_terminal terminal)
    exact (settle_failing e (x.plan store i d).2 going).1
  · cases terminal : (Stage.plan store i d).terminal with
    | false => exact (settle_failing e (x.plan store i d).2 terminal).2
    | true =>
      rw [run, settle_of_terminal _ _ terminal]
      rfl

theorem survey_failing (x : Exporter σ) :
    (x.survey (.failing e)).1 = .error (.transport e) ∧
      (x.survey (.failing e)).2.switch = x.switch :=
  ⟨rfl, rfl⟩

/-- A queue that is closed takes nothing, whatever follows from an event. -/
theorem handle_refused {x : Exporter σ} (event : LeaseEvent) (closed : ∀ n, x.accepts n = false) :
    (x.handle store event).1 = false ∧ (x.handle store event).2.accepts = x.accepts ∧
      (x.handle store event).2.queue = x.queue ∧ (x.handle store event).2.switch = x.switch := by
  cases consequence : event.consequence store with
  | error fault =>
    simp [handle, consequence, count]
  | ok intent =>
    cases intent with
    | none =>
      simp [handle, consequence, count]
    | some work =>
      simp [handle, consequence, submit, count, closed]

end Exporter

namespace Heartbeat

variable {σ : Type} (e : TransportFault)

/-- The monitor takes the connection for lost, and never said that it is back. -/
def Monitor.Down (m : Monitor) : Prop := m.state.lost = true ∧ .restored ∉ m.notices

theorem Monitor.Down.callBack {m : Monitor} (h : m.Down) : m.callBack.Down := by
  refine ⟨rfl, ?_⟩
  simp [Monitor.callBack, Monitor.failed, h.2]

namespace Watch

/-- A probe over a channel that fails is as good as a callback. -/
theorem tick_failing (w : Watch σ) (r : Restoration) {m : Monitor} (alive : w.monitor = some m) :
    w.tick (.failing e) r =
      (some .failed, ⟨(w.exporter.send (.failing e) probe).2, some m.callBack⟩) := by
  simp only [tick, alive]
  rfl

theorem tick_none (channel : Channel σ) (w : Watch σ) (r : Restoration) (dead : w.monitor = none) :
    w.tick channel r = (none, w) := by
  simp only [tick, dead]

/-- No probe over a channel that fails is a good one. -/
theorem recorded_failing (w : Watch σ) (m : Move) :
    ∀ entry ∈ w.recorded (.failing e) m, entry.isGood = false := by
  cases m with
  | probe calls =>
    have bad : outcome ((Channel.failing e).exchange w.exporter.switch probe).1 =
      .error (.transport e) := rfl
    simp only [recorded, bad]
    cases (w.tick (.failing e) .nothing).1 with
    | none => simp
    | some t => simp [Entry.isGood]
  | callBack | restart => simp [recorded, Entry.isGood]

theorem run_failing (w : Watch σ) (moves : List Move) :
    ∀ entry ∈ (w.run (.failing e) moves).1, entry.isGood = false := by
  induction moves generalizing w with
  | nil => simp [run]
  | cons m moves ih =>
    simp only [run, List.forall_mem_append]
    exact ⟨recorded_failing e w m, ih _⟩

theorem move_failing_switch (w : Watch σ) (m : Move) :
    (w.move (.failing e) m).exporter.switch = w.exporter.switch := by
  cases m with
  | probe calls =>
    cases alive : w.monitor with
    | none => simp [move, tick_none _ w _ alive]
    | some m =>
      simp only [move, tick_failing e w _ alive]
      rfl
  | callBack | restart => rfl

theorem run_failing_switch (w : Watch σ) (moves : List Move) :
    (w.run (.failing e) moves).2.exporter.switch = w.exporter.switch := by
  induction moves generalizing w with
  | nil => rfl
  | cons m moves ih => exact (ih _).trans (move_failing_switch e w m)

/-- From the start on no listener hears that the connection is back. -/
theorem down_of_run_failing (switch : σ) (moves : List Move) :
    ∃ m, ((fresh switch).run (.failing e) moves).2.monitor = some m ∧ m.Down := by
  obtain ⟨counters, monitor⟩ := ((account_fresh switch).run (.failing e) moves).monitor
  have bad := run_failing e (fresh switch) moves
  refine ⟨_, monitor, ?_, ?_⟩
  · cases last : ((fresh switch).run (.failing e) moves).1.getLast? with
    | none => simp [stateAfter, last]
    | some entry => simp [stateAfter, last, bad entry (List.mem_of_getLast? last)]
  · intro told
    obtain ⟨entry, member, restored⟩ := List.mem_flatMap.1 told
    have down := bad entry member
    cases entry with
    | good => cases down
    | failed | calledBack | restarted => simp [Entry.told] at restored

end Watch

end Heartbeat

/-! ## Clients -/

namespace Http.Client

variable {σ : Type} {c : Client} (secure : c.url.secure = true) (network : Network σ)

include secure

/-- Whatever the workers do, nothing is sent. -/
theorem send_secure (path : String) (b : Rpc.Batch) (s : σ) :
    c.send network path b s = (.error .tls, s) := by
  have refused : c.request path b = .error .tls := by rw [request, if_pos secure]
  simp only [send, refused]

theorem channel_secure : c.channel network = .failing .tlsConnection := by
  have exchange (s : σ) (b : Rpc.Batch) :
      (c.channel network).exchange s b = (Reply.failed .tlsConnection 0, s) := by
    simp only [channel, send_secure secure]
    rfl
  exact congrArg Channel.mk (funext fun s => funext fun b => exchange s b)

end Http.Client

/-! ## Services -/

namespace Service

open Heartbeat Http

/-- What is asked of a service from outside, and what goes on within it. -/
inductive Call
  | start
  | stop
  | handle (e : LeaseEvent)
  | probe
  | work

/-- What comes of a call. -/
inductive Answer
  | started
  | refused (e : Refusal)
  | stopped
  | taken (b : Bool)
  | probed (t : Option Transition)
  | worked
  deriving DecidableEq, Repr

section Calls

variable {σ : Type} (network : Network σ)

def call (s : Service σ) : Call → Answer × Service σ
  | .start =>
    match s.start with
    | .ok t => (.started, t)
    | .error e => (.refused e, s)
  | .stop => (.stopped, s.stop)
  | .handle e => (.taken (s.handle e).1, (s.handle e).2)
  | .probe => (.probed (s.watch.tick (s.client.channel network) .resync).1, s.tick network)
  | .work => (.worked, s.workFirst network)

def calls (s : Service σ) : List Call → List Answer × Service σ
  | [] => ([], s)
  | c :: rest =>
    let (answer, s) := s.call network c
    let (answers, s) := s.calls rest
    (answer :: answers, s)

/-- The answer of a service for a secure connection. -/
def Call.denied : Call → Answer
  | .start => .refused .tls
  | .stop => .stopped
  | .handle _ => .taken false
  | .probe => .probed (some .failed)
  | .work => .worked

/-- A service for a secure connection that has never started. -/
structure Asleep (switch : σ) (s : Service σ) : Prop where
  secure : s.client.url.secure = true
  stopped : s.running = false
  refuses : ∀ n, s.watch.exporter.accepts n = false
  queue : s.watch.exporter.queue = []
  switch : s.watch.exporter.switch = switch
  monitor : ∃ m, s.watch.monitor = some m ∧ m.Down

variable {switch : σ} {s : Service σ}

theorem asleep_fresh {c : Connection} (secure : c.url.secure = true) (store : LeaseStore)
    (switch : σ) : Asleep switch (fresh c store switch) :=
  ⟨secure, rfl, fun _ => rfl, rfl, rfl, _, rfl, rfl, by simp [Monitor.fresh]⟩

theorem Asleep.start (h : Asleep switch s) : s.start = .error .tls := by
  rw [Service.start, if_pos h.secure]

theorem Asleep.stop (h : Asleep switch s) : s.stop = s := by
  rw [Service.stop, if_neg (by simp [h.stopped])]

theorem Asleep.handle (h : Asleep switch s) (e : LeaseEvent) :
    (s.handle e).1 = false ∧ Asleep switch (s.handle e).2 := by
  obtain ⟨taken, accepts, queue, same⟩ := Exporter.handle_refused s.store e h.refuses
  exact ⟨taken, h.secure, h.stopped, fun n => accepts ▸ h.refuses n, queue.trans h.queue,
    same.trans h.switch, h.monitor⟩

theorem Asleep.probe (h : Asleep switch s) (network : Network σ) :
    (s.watch.tick (s.client.channel network) .resync).1 = some .failed ∧
      Asleep switch (s.tick network) := by
  obtain ⟨m, alive, down⟩ := h.monitor
  have channel := Client.channel_secure h.secure network
  have ticked := Watch.tick_failing .tlsConnection s.watch .resync alive
  have watch : (s.tick network).watch =
      ⟨(s.watch.exporter.send (.failing .tlsConnection) Heartbeat.probe).2, some m.callBack⟩ := by
    rw [tick, channel, ticked]
  refine ⟨by rw [channel, ticked], h.secure, h.stopped, ?_, ?_, ?_, ?_⟩
  · rw [watch]
    exact h.refuses
  · rw [watch]
    exact h.queue
  · rw [watch]
    exact h.switch
  · rw [watch]
    exact ⟨_, rfl, down.callBack⟩

/-- There is never any work. -/
theorem Asleep.work (h : Asleep switch s) (network : Network σ) : s.workFirst network = s := by
  have same : s.watch.runFirst (s.client.channel network) s.store = s.watch := by
    rw [Watch.runFirst, Exporter.runFirst_nil _ _ h.queue, Watch.advance, Nat.sub_self]
    rfl
  rw [workFirst, same]

theorem Asleep.call (h : Asleep switch s) (network : Network σ) (c : Call) :
    (s.call network c).1 = c.denied ∧ Asleep switch (s.call network c).2 := by
  cases c with
  | start =>
    simp only [Service.call, h.start]
    exact ⟨rfl, h⟩
  | stop =>
    simp only [Service.call, h.stop]
    exact ⟨rfl, h⟩
  | handle e =>
    obtain ⟨taken, asleep⟩ := h.handle e
    exact ⟨congrArg Answer.taken taken, asleep⟩
  | probe =>
    obtain ⟨failed, asleep⟩ := h.probe network
    exact ⟨congrArg Answer.probed failed, asleep⟩
  | work =>
    simp only [Service.call, h.work network]
    exact ⟨rfl, h⟩

theorem Asleep.calls (h : Asleep switch s) (network : Network σ) (cs : List Call) :
    (s.calls network cs).1 = cs.map Call.denied ∧ Asleep switch (s.calls network cs).2 := by
  induction cs generalizing s with
  | nil => exact ⟨rfl, h⟩
  | cons c cs ih =>
    obtain ⟨denied, asleep⟩ := h.call network c
    obtain ⟨rest, last⟩ := ih asleep
    refine ⟨?_, last⟩
    simp only [Service.calls, List.map_cons, denied, rest]

end Calls

/-- Secure connections fail closed, whatever the workers do. No batch is sent; every operation
fails, for want of a connection unless it is a removal that is to be applied; every survey fails, and
every probe, so that from the start on the monitor takes the connection for lost and tells nobody
that it is back, whatever its listeners do. A service for a secure connection refuses every start,
never runs and never takes an event. The network is left alone. -/
theorem secure_fails_closed {σ : Type} {c : Connection} (secure : c.url.secure = true)
    (network : Network σ) (store : LeaseStore) (pool : Pool) :
    let client := { Client.ofConnection c with pool := pool }
    let channel := client.channel network
    (∀ path b s, client.send network path b s = (.error .tls, s)) ∧
    (∀ (x : Exporter σ) i d,
      (i.Unsupported d → (x.run channel store i d).1 = .failed (.unsupported i.payload)) ∧
      (¬i.Unsupported d → (x.run channel store i d).1 = .failed (.transport .tlsConnection)) ∧
      (x.run channel store i d).2.switch = x.switch) ∧
    (∀ x : Exporter σ, (x.survey channel).1 = .error (.transport .tlsConnection) ∧
      (x.survey channel).2.switch = x.switch) ∧
    (∀ switch moves,
      let (past, w) := (Watch.fresh switch).run channel moves
      (∀ entry ∈ past, entry.isGood = false) ∧ w.exporter.switch = switch ∧
        ∃ m, w.monitor = some m ∧ m.state.lost = true ∧ .restored ∉ m.notices) ∧
    ∀ switch cs,
      let (answers, s) := (fresh c store switch).calls network cs
      answers = cs.map Call.denied ∧ s.running = false ∧ s.watch.exporter.queue = [] ∧
        s.watch.exporter.switch = switch ∧
        ∃ m, s.watch.monitor = some m ∧ m.state.lost = true ∧ .restored ∉ m.notices := by
  intro client channel
  have failing : channel = .failing .tlsConnection := Client.channel_secure secure network
  refine ⟨Client.send_secure secure network, ?_, ?_, ?_, ?_⟩
  · intro x i d
    rw [failing]
    exact x.run_failing .tlsConnection store i d
  · intro x
    rw [failing]
    exact x.survey_failing .tlsConnection
  · intro switch moves
    rw [failing]
    exact ⟨Watch.run_failing _ _ moves, Watch.run_failing_switch _ _ moves,
      Watch.down_of_run_failing _ switch moves⟩
  · intro switch cs
    obtain ⟨answers, asleep⟩ := (asleep_fresh secure store switch).calls network cs
    exact ⟨answers, asleep.stopped, asleep.queue, asleep.switch, asleep.monitor⟩

/-- Starting again, and probing in between, helps nothing: the network is never asked. -/
theorem secure_fails_closed_again :
    let url : Url := ⟨true, "", "", "switch", none, "/", none, none⟩
    let c : Connection := ⟨url, ⟨"admin", "secret"⟩, some ⟨"own.pem", "own.key"⟩, 10, 10, 4, true⟩
    let counting : Network Nat := ⟨fun asked _ => (.error .connection, asked + 1)⟩
    let out := (fresh c (.ofList []) 0).calls counting [.start, .probe, .stop, .start, .probe]
    c.url.secure = true ∧
      out.1 = [.refused .tls, .probed (some .failed), .stopped, .refused .tls,
        .probed (some .failed)] ∧
      out.2.running = false ∧ out.2.watch.exporter.switch = 0 := by
  intro url c counting out
  have secure : c.url.secure = true := rfl
  obtain ⟨-, -, -, -, service⟩ := secure_fails_closed secure counting (.ofList []) ⟨4, true⟩
  obtain ⟨answers, stopped, -, asked, -⟩ :=
    service 0 [.start, .probe, .stop, .start, .probe]
  exact ⟨secure, answers, stopped, asked⟩

end Service

end LeaseRoutes
