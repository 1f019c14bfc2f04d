import LeaseRoutes.Proofs.Heartbeat.Account

namespace LeaseRoutes.Heartbeat

open Switch (Channel)

namespace Monitor

/-- The gauge is up just if the connection does not count as lost. -/
def Gauged (m : Monitor) : Prop := m.counters.connected = !m.state.lost

/-- The gauge is not down while the connection is there. -/
def Credited (m : Monitor) : Prop := m.state.lost = false → m.counters.connected = true

theorem Gauged.credited {m : Monitor} (h : m.Gauged) : m.Credited := by
  intro found
  rw [h, found]
  rfl

theorem gauged_callBack (m : Monitor) : m.callBack.Gauged := rfl

/-- A steady probe writes no gauge. It is steady because the connection was there, so that the gauge
was up before. -/
theorem Credited.take {m : Monitor} (h : m.Credited) (r : Switch.Reply) : (m.take r).2.Gauged := by
  cases answer : outcome r with
  | error e =>
    rw [take_of_error m answer]
    rfl
  | ok uptime =>
    rw [take_of_ok m answer]
    split
    · rfl
    · next steady =>
      have found : m.state.lost = false := Bool.eq_false_iff.2 fun lost => steady (.inl lost)
      exact h found

end Monitor

namespace Watch

variable {σ : Type} (channel : Channel σ)

/-- A property of the monitor that is there. -/
def Monitored (p : Monitor → Prop) (w : Watch σ) : Prop := ∃ m, w.monitor = some m ∧ p m

theorem Monitored.callBack {p : Monitor → Prop} {w : Watch σ} (h : w.Monitored p) :
    w.callBack.Monitored Monitor.Gauged := by
  obtain ⟨m, alive, -⟩ := h
  exact ⟨m.callBack, by rw [Watch.callBack, alive]; rfl, m.gauged_callBack⟩

theorem Monitored.callBacks {w : Watch σ} (h : w.Monitored Monitor.Gauged) (calls : Nat) :
    (calls.repeat Watch.callBack w).Monitored Monitor.Gauged := by
  induction calls with
  | zero => exact h
  | succ calls ih => exact ih.callBack

/-- The monitor after a move: a probe and a callback bring the gauge in line, a start leaves it as it
was and takes the connection for lost. -/
theorem Monitored.move {w : Watch σ} {m : Monitor} (alive : w.monitor = some m) (h : m.Credited)
    (last : Move) :
    (w.move channel last).Monitored fun n =>
      match last with
      | .probe _ | .callBack => n.Gauged
      | .restart => n.state.lost = true ∧ n.counters.connected = m.counters.connected := by
  cases last with
  | probe calls =>
    have ticked := tick_nothing channel w alive rfl
    have taken : (w.tick channel .nothing).2.Monitored Monitor.Gauged := by
      rw [ticked]
      exact ⟨_, rfl, h.take _⟩
    simp only [Watch.move]
    split
    · exact taken.callBacks calls
    · exact taken
  | callBack => exact Monitored.callBack ⟨m, alive, h⟩
  | restart => exact ⟨m.restart, by rw [Watch.move, Watch.restart, alive]; rfl, rfl, rfl⟩

theorem Monitored.credited_move {w : Watch σ} (h : w.Monitored Monitor.Credited) (last : Move) :
    (w.move channel last).Monitored Monitor.Credited := by
  obtain ⟨m, alive, credited⟩ := h
  obtain ⟨n, after, moved⟩ := Monitored.move channel alive credited last
  refine ⟨n, after, ?_⟩
  cases last with
  | probe | callBack => exact Monitor.Gauged.credited moved
  | restart => exact fun found => absurd (moved.1.symm.trans found) (by decide)

theorem Monitored.run {w : Watch σ} (h : w.Monitored Monitor.Credited) (moves : List Move) :
    (w.run channel moves).2.Monitored Monitor.Credited := by
  induction moves generalizing w with
  | nil => exact h
  | cons last moves ih => exact ih (h.credited_move channel last)

theorem run_concat (w : Watch σ) (moves : List Move) (last : Move) :
    (w.run channel (moves ++ [last])).2 = (w.run channel moves).2.move channel last := by
  induction moves generalizing w with
  | nil => rfl
  | cons first moves ih => exact ih (w.move channel first)

/-- In every run, the gauge after a probe or a callback is up just if the connection does not count
as lost. After a start the connection counts as lost, and the gauge reads what it read before. -/
theorem gauge_follows (switch : σ) (moves : List Move) (last : Move) :
    ∃ before after, ((fresh switch).run channel moves).2.monitor = some before ∧
      ((fresh switch).run channel (moves ++ [last])).2.monitor = some after ∧
      match last with
      | .probe _ | .callBack => after.counters.connected = !after.state.lost
      | .restart =>
        after.state.lost = true ∧ after.counters.connected = before.counters.connected := by
  have start : (fresh switch).Monitored Monitor.Credited := ⟨.fresh, rfl, nofun⟩
  obtain ⟨before, alive, credited⟩ := start.run channel moves
  obtain ⟨after, moved, told⟩ := Monitored.move channel alive credited last
  rw [run_concat]
  exact ⟨before, after, alive, moved, told⟩

/-- The switch answers the first probe and the timer is started once more: the gauge still says that
the switch is connected, while the monitor takes the connection for lost. -/
theorem gauge_stale_after_start :
    ¬∀ (channel : Channel Unit) (moves : List Move) (m : Monitor),
      ((fresh ()).run channel moves).2.monitor = some m →
        m.counters.connected = !m.state.lost := by
  intro claim
  let answering : Channel Unit := .answering fun _ => upFor 1 40
  let restarted : Monitor := ⟨.initial, Metrics.HeartbeatCounters.zero.reconnection, [.restored]⟩
  have stale : ((fresh ()).run answering [.probe 0, .restart]).2.monitor = some restarted := by
    decide +kernel
  exact absurd (claim answering [.probe 0, .restart] restarted stale) (by decide)

end Watch

end LeaseRoutes.Heartbeat
