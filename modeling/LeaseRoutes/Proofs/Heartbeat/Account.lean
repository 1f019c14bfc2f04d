import LeaseRoutes.Heartbeat.Watch
import LeaseRoutes.Proofs.Heartbeat.Regression

namespace LeaseRoutes.Heartbeat

open Switch (Channel)

/-- What is done with a monitor. A probe that finds the connection restored is followed by `calls`
callbacks of the listener that is told so. -/
inductive Move
  | probe (calls : Nat)
  | callBack
  | restart

def Move.isProbe : Move → Bool
  | .probe _ => true
  | _ => false

/-- What a good probe leaves for the next uptime to be compared with. -/
def leaves (uptime : UInt64) : Transition → UInt64
  | .steady => uptime
  | _ => 0

/-- What is recorded of a run. -/
inductive Entry
  | good (uptime : UInt64) (t : Transition)
  | failed
  | calledBack
  | restarted

namespace Entry

def isGood : Entry → Bool
  | .good .. => true
  | _ => false

def isProbe : Entry → Bool
  | .good .. | .failed => true
  | _ => false

/-- What the listeners are told. -/
def told : Entry → List Notice
  | .good _ .discontinuity => [.restored]
  | .failed | .calledBack => [.failed]
  | _ => []

/-- What is remembered after an entry, given what was before. -/
def keep (previous : UInt64) : Entry → UInt64
  | .good uptime t => leaves uptime t
  | .restarted => 0
  | .failed | .calledBack => previous

end Entry

/-- The transition that is due for a good probe. Anything else right before it is an outage. -/
def due (before : List Entry) (uptime : UInt64) : Transition :=
  match before.getLast? with
  | some (.good earlier t) => if uptime < leaves earlier t then .discontinuity else .steady
  | _ => .discontinuity

/-- Every good probe has the transition that is due. -/
def Due (past : List Entry) : Prop :=
  ∀ before uptime t after, past = before ++ .good uptime t :: after → t = due before uptime

/-- The state that a record leads to. -/
def stateAfter (past : List Entry) : State where
  previous := past.foldl Entry.keep 0
  lost := !past.getLast?.any Entry.isGood

/-! ## Records -/

theorem due_nil : Due [] := by
  intro before uptime t after split
  exact absurd split (by simp)

theorem due_concat {past : List Entry} (h : Due past) {e : Entry}
    (last : ∀ uptime t, e = .good uptime t → t = due past uptime) : Due (past ++ [e]) := by
  intro before uptime t after split
  rcases List.eq_nil_or_concat after with rfl | ⟨rest, final, rfl⟩
  · obtain ⟨rfl, same⟩ := List.append_inj' split rfl
    exact last uptime t (List.cons.inj same).1
  · rw [List.concat_eq_append, ← List.cons_append, ← List.append_assoc] at split
    exact h before uptime t rest (List.append_inj' split rfl).1

theorem due_of_outage {before : List Entry} (h : ∀ e ∈ before.getLast?, e.isGood = false)
    (uptime : UInt64) : due before uptime = .discontinuity := by
  unfold due
  split
  · next earlier t last => exact absurd (h _ last) (by simp [Entry.isGood])
  · rfl

theorem due_after_good (before : List Entry) (earlier uptime : UInt64) (t : Transition) :
    due (before ++ [.good earlier t]) uptime =
      if uptime < leaves earlier t then .discontinuity else .steady := by
  simp [due]

theorem due_cases (before : List Entry) (uptime : UInt64) :
    due before uptime = .discontinuity ∨ due before uptime = .steady := by
  unfold due
  split
  · split
    · exact .inl rfl
    · exact .inr rfl
  · exact .inl rfl

theorem stateAfter_concat (past : List Entry) (e : Entry) :
    stateAfter (past ++ [e]) = ⟨e.keep (stateAfter past).previous, !e.isGood⟩ := by
  simp [stateAfter]

/-- A good probe is observed as is due. -/
theorem observe_stateAfter (past : List Entry) (uptime : UInt64) :
    (stateAfter past).observe (some uptime) =
      (⟨leaves uptime (due past uptime), false⟩, due past uptime) := by
  rcases List.eq_nil_or_concat past with rfl | ⟨rest, last, rfl⟩
  · rfl
  · rw [List.concat_eq_append, stateAfter_concat]
    cases last with
    | good earlier t =>
      rw [due_after_good]
      by_cases behind : uptime < leaves earlier t
      · simp only [State.observe, Entry.keep, behind, or_true, ↓reduceIte]
        rfl
      · simp only [State.observe, Entry.keep, Entry.isGood, behind, Bool.not_true,
          Bool.false_eq_true, or_self, ↓reduceIte]
        rfl
    | failed | calledBack | restarted =>
      rw [due_of_outage (by simp [Entry.isGood])]
      simp [State.observe, Entry.isGood, leaves]

/-- A good probe, taken by a monitor that has this record. -/
theorem take_good (past : List Entry) (counters : Metrics.HeartbeatCounters) {r : Switch.Reply}
    {uptime : UInt64} (good : outcome r = .ok uptime) :
    let next := past ++ [.good uptime (due past uptime)]
    ∃ counted, (⟨stateAfter past, counters, past.flatMap Entry.told⟩ : Monitor).take r =
      (due past uptime, ⟨stateAfter next, counted, next.flatMap Entry.told⟩) := by
  have observed := observe_stateAfter past uptime
  simp only [Monitor.take, good, Except.toOption, observed, stateAfter_concat, Entry.keep,
    List.flatMap_append]
  rcases due_cases past uptime with t | t
  · exact ⟨counters.reconnection, by simp [t, Entry.told, Entry.isGood]⟩
  · exact ⟨counters, by simp [t, Entry.told, Entry.isGood]⟩

/-- A failed probe, taken by a monitor that has this record. -/
theorem take_failed (past : List Entry) (counters : Metrics.HeartbeatCounters) {r : Switch.Reply}
    {e : Switch.Fault} (bad : outcome r = .error e) :
    (⟨stateAfter past, counters, past.flatMap Entry.told⟩ : Monitor).take r =
      (.failed, ⟨stateAfter (past ++ [Entry.failed]), counters.failure,
        (past ++ [Entry.failed]).flatMap Entry.told⟩) := by
  rw [Monitor.take_of_error _ bad, stateAfter_concat]
  simp [Monitor.failed, State.lose, Entry.keep, Entry.isGood, Entry.told]

namespace Watch

variable {σ : Type} (channel : Channel σ)

def move (w : Watch σ) : Move → Watch σ
  | .probe calls =>
    let (t, v) := w.tick channel .nothing
    if t = some .discontinuity then calls.repeat callBack v else v
  | .callBack => w.callBack
  | .restart => w.restart

/-- What is recorded of a move: the uptime that the switch tells and what the monitor makes of it. -/
def recorded (w : Watch σ) : Move → List Entry
  | .probe calls =>
    match (w.tick channel .nothing).1, outcome (channel.exchange w.exporter.switch probe).1 with
    | some t, .ok uptime =>
      .good uptime t :: if t = .discontinuity then List.replicate calls .calledBack else []
    | some _, .error _ => [.failed]
    | none, _ => []
  | .callBack => [.calledBack]
  | .restart => [.restarted]

/-- The record of a run, and where it leads. -/
def run (w : Watch σ) : List Move → List Entry × Watch σ
  | [] => ([], w)
  | m :: moves =>
    let (entries, v) := (w.move channel m).run moves
    (w.recorded channel m ++ entries, v)

/-- The record agrees with what was sent, and with what the monitor remembers and has said. -/
structure Account (past : List Entry) (w : Watch σ) : Prop where
  due : Due past
  sent : w.exporter.sent = List.replicate (past.countP Entry.isProbe) probe
  monitor : ∃ counters, w.monitor = some ⟨stateAfter past, counters, past.flatMap Entry.told⟩

theorem account_fresh (switch : σ) : Account [] (fresh switch) :=
  ⟨due_nil, rfl, .zero, rfl⟩

/-- What was not a probe sent nothing. -/
theorem Account.sent_concat {past : List Entry} {w : Watch σ} (h : Account past w) {e : Entry}
    (quiet : e.isProbe = false) :
    w.exporter.sent = List.replicate ((past ++ [e]).countP Entry.isProbe) probe := by
  simpa [List.countP_append, quiet] using h.sent

theorem Account.callBack {past : List Entry} {w : Watch σ} (h : Account past w) :
    Account (past ++ [.calledBack]) w.callBack := by
  obtain ⟨counters, monitor⟩ := h.monitor
  refine ⟨due_concat h.due nofun, h.sent_concat rfl, counters.failure, ?_⟩
  rw [stateAfter_concat]
  simp [Watch.callBack, monitor, Monitor.callBack, Monitor.failed, State.lose, Entry.keep,
    Entry.isGood, Entry.told]

theorem Account.callBacks {past : List Entry} {w : Watch σ} (h : Account past w) (calls : Nat) :
    Account (past ++ List.replicate calls .calledBack) (calls.repeat Watch.callBack w) := by
  induction calls with
  | zero => exact (List.append_nil past).symm ▸ h
  | succ calls ih =>
    rw [List.replicate_succ', ← List.append_assoc]
    exact ih.callBack

theorem Account.restart {past : List Entry} {w : Watch σ} (h : Account past w) :
    Account (past ++ [.restarted]) w.restart := by
  obtain ⟨counters, monitor⟩ := h.monitor
  refine ⟨due_concat h.due nofun, h.sent_concat rfl, counters, ?_⟩
  rw [stateAfter_concat]
  simp [Watch.restart, monitor, Monitor.restart, State.initial, Entry.keep, Entry.isGood,
    Entry.told]

theorem tick_nothing (w : Watch σ) {m n : Monitor} {t : Transition} (alive : w.monitor = some m)
    (taken : m.take (channel.exchange w.exporter.switch probe).1 = (t, n)) :
    w.tick channel .nothing = (some t, ⟨(w.exporter.send channel probe).2, some n⟩) := by
  simp only [tick, alive, Exporter.send, taken]

theorem sent_probe {past : List Entry} {w : Watch σ} (h : Account past w) {e : Entry}
    (probed : e.isProbe = true) :
    (w.exporter.send channel probe).2.sent =
      List.replicate ((past ++ [e]).countP Entry.isProbe) probe := by
  have one : (past ++ [e]).countP Entry.isProbe = past.countP Entry.isProbe + 1 := by
    simp [List.countP_append, probed]
  rw [one, List.replicate_succ', ← h.sent]
  rfl

theorem Account.probe {past : List Entry} {w : Watch σ} (h : Account past w) (calls : Nat) :
    Account (past ++ w.recorded channel (.probe calls)) (w.move channel (.probe calls)) := by
  obtain ⟨counters, monitor⟩ := h.monitor
  cases answer : outcome (channel.exchange w.exporter.switch Heartbeat.probe).1 with
  | error e =>
    have ticked := tick_nothing channel w monitor (take_failed past counters answer)
    simp only [recorded, move, ticked, answer]
    exact ⟨due_concat h.due nofun, sent_probe channel h rfl, counters.failure, rfl⟩
  | ok uptime =>
    obtain ⟨counted, taken⟩ := take_good past counters answer
    have ticked := tick_nothing channel w monitor taken
    have good : Account (past ++ [.good uptime (Heartbeat.due past uptime)])
        (w.tick channel .nothing).2 := by
      rw [ticked]
      refine ⟨due_concat h.due ?_, sent_probe channel h rfl, counted, rfl⟩
      rintro u t ⟨⟩
      rfl
    rcases due_cases past uptime with t | t
    · simp only [recorded, move, ticked, answer, t, ↓reduceIte] at good ⊢
      rw [List.append_cons]
      exact good.callBacks calls
    · simp only [recorded, move, ticked, answer, t] at good ⊢
      exact good

theorem Account.move {past : List Entry} {w : Watch σ} (h : Account past w) (m : Move) :
    Account (past ++ w.recorded channel m) (w.move channel m) := by
  cases m with
  | probe calls => exact h.probe channel calls
  | callBack => exact h.callBack
  | restart => exact h.restart

theorem Account.run {past : List Entry} {w : Watch σ} (h : Account past w) (moves : List Move) :
    Account (past ++ (w.run channel moves).1) (w.run channel moves).2 := by
  induction moves generalizing past w with
  | nil => exact (List.append_nil past).symm ▸ h
  | cons m moves ih =>
    simp only [Watch.run, ← List.append_assoc]
    exact ih (h.move channel m)

/-- Every probe is recorded once. -/
theorem Account.countP_recorded {past : List Entry} {w : Watch σ} (h : Account past w) (m : Move) :
    (w.recorded channel m).countP Entry.isProbe = if m.isProbe then 1 else 0 := by
  cases m with
  | probe calls =>
    obtain ⟨counters, monitor⟩ := h.monitor
    obtain ⟨t, ticked⟩ : ∃ t, (w.tick channel .nothing).1 = some t :=
      ⟨_, congrArg Prod.fst (tick_nothing channel w monitor rfl)⟩
    cases answer : outcome (channel.exchange w.exporter.switch Heartbeat.probe).1 with
    | error e => simp [recorded, ticked, answer, Entry.isProbe, Move.isProbe]
    | ok uptime =>
      by_cases restored : t = .discontinuity <;>
        simp [recorded, ticked, answer, restored, List.countP_cons, List.countP_replicate,
          Entry.isProbe, Move.isProbe]
  | callBack => rfl
  | restart => rfl

theorem Account.countP_run {past : List Entry} {w : Watch σ} (h : Account past w)
    (moves : List Move) :
    (w.run channel moves).1.countP Entry.isProbe = moves.countP Move.isProbe := by
  induction moves generalizing past w with
  | nil => rfl
  | cons m moves ih =>
    simp only [Watch.run, List.countP_append, List.countP_cons, ih (h.move channel m),
      h.countP_recorded channel m]
    exact Nat.add_comm _ _

/-- A run of any moves, from the start. The first good probe, and one with an outage since the good
probe before it, is a discontinuity; any other is one just if its uptime is below what the good
probe before it has left. Each probe sends one batch. -/
theorem run_account (switch : σ) (moves : List Move) :
    let past := ((fresh switch).run channel moves).1
    let w := ((fresh switch).run channel moves).2
    (∀ before uptime t after, past = before ++ .good uptime t :: after →
      ((∀ e ∈ before, e.isGood = false) → t = .discontinuity) ∧
      ∀ first earlier s outage, before = first ++ .good earlier s :: outage →
        (∀ e ∈ outage, e.isGood = false) →
        t = if outage ≠ [] ∨ uptime < leaves earlier s then .discontinuity else .steady) ∧
    past.countP Entry.isProbe = moves.countP Move.isProbe ∧
    w.exporter.sent = List.replicate (moves.countP Move.isProbe) (.single "show version") ∧
    ∃ m, w.monitor = some m ∧ m.state.previous = past.foldl Entry.keep 0 ∧
      m.notices = past.flatMap Entry.told := by
  intro past w
  have account : Account past w := (account_fresh switch).run channel moves
  have probes : past.countP Entry.isProbe = moves.countP Move.isProbe :=
    (account_fresh switch).countP_run channel moves
  obtain ⟨counters, monitor⟩ := account.monitor
  refine ⟨?_, probes, probes ▸ account.sent, _, monitor, rfl, rfl⟩
  intro before uptime t after split
  have t_due := account.due before uptime t after split
  refine ⟨fun first => ?_, ?_⟩
  · rw [t_due, due_of_outage fun e last => first e (List.mem_of_getLast? last)]
  · rintro first earlier s outage rfl bad
    rcases List.eq_nil_or_concat outage with rfl | ⟨rest, last, rfl⟩
    · simp [t_due, due_after_good]
    · have final : (first ++ .good earlier s :: rest.concat last).getLast? = some last := by
        rw [List.concat_eq_append, ← List.cons_append, ← List.append_assoc, List.getLast?_concat]
      have down : ∀ e ∈ (first ++ .good earlier s :: rest.concat last).getLast?,
          e.isGood = false := by
        rw [final]
        rintro e ⟨⟩
        exact bad last (by simp)
      rw [t_due, due_of_outage down]
      simp

end Watch

end LeaseRoutes.Heartbeat
