import LeaseRoutes.Heartbeat.Monitor

namespace LeaseRoutes.Heartbeat

open Switch (Reply)

/-- What happens to a monitor. -/
inductive Event
  | probed (r : Reply)
  | calledBack
  | restarted

/-- A good reply to a probe. -/
def upFor (minutes seconds : Int) : Reply :=
  let uptime := Json.obj [("kern_uptm_days", .num (.whole 0)), ("kern_uptm_hrs", .num (.whole 0)),
    ("kern_uptm_mins", .num (.whole minutes)), ("kern_uptm_secs", .num (.whole seconds))]
  ⟨none, 200, [⟨.num 1, .obj [("body", uptime)]⟩], none⟩

namespace Monitor

/-- Takes in an event. A probe has a transition. -/
def feed (m : Monitor) : Event → Option Transition × Monitor
  | .probed r =>
    let (transition, m) := m.take r
    (some transition, m)
  | .calledBack => (none, m.callBack)
  | .restarted => (none, m.restart)

/-- The transitions of a run in their order, and where it leads. -/
def run (m : Monitor) : List Event → List Transition × Monitor
  | [] => ([], m)
  | e :: events =>
    let (transition, m) := m.feed e
    let (transitions, m) := m.run events
    (transition.toList ++ transitions, m)

theorem run_append (m : Monitor) (before after : List Event) :
    m.run (before ++ after) =
      ((m.run before).1 ++ ((m.run before).2.run after).1, ((m.run before).2.run after).2) := by
  induction before generalizing m with
  | nil => rfl
  | cons e before ih =>
    simp only [List.cons_append, run, ih, List.append_assoc]

/-- Two probes at the end of a run. -/
theorem run_two_probes (before : List Event) {first second : Reply} {m n k : Monitor}
    {t s : Transition} (start : (fresh.run before).2 = m) (one : m.take first = (t, n))
    (two : n.take second = (s, k)) :
    fresh.run (before ++ [.probed first, .probed second]) =
      ((fresh.run before).1 ++ [t, s], k) := by
  have tail : m.run [.probed first, .probed second] = ([t, s], k) := by
    simp only [run, feed, one, two]
    rfl
  rw [run_append, start, tail]

/-- The monitor after a discontinuity: it forgets the uptime and tells its listeners. -/
def restored (m : Monitor) : Monitor :=
  ⟨⟨0, false⟩, m.counters.reconnection, m.notices ++ [.restored]⟩

/-- The monitor after a steady probe. -/
def steady (m : Monitor) (uptime : UInt64) : Monitor := { m with state := ⟨uptime, false⟩ }

theorem take_of_ok (m : Monitor) {r : Reply} {u : UInt64} (good : outcome r = .ok u) :
    m.take r =
      if m.state.lost ∨ u < m.state.previous then (.discontinuity, m.restored)
      else (.steady, m.steady u) := by
  simp only [take, good, Except.toOption, State.observe]
  split <;> rfl

theorem take_of_error (m : Monitor) {r : Reply} {e : Switch.Fault} (bad : outcome r = .error e) :
    m.take r = (.failed, { m with state := m.state.lose }.failed) := by
  simp only [take, bad, Except.toOption, State.observe]

/-- After a discontinuity no uptime is behind. -/
theorem restored_take (m : Monitor) {r : Reply} {u : UInt64} (good : outcome r = .ok u) :
    m.restored.take r = (.steady, m.restored.steady u) := by
  have ahead : ¬(m.restored.state.lost = true ∨ u < m.restored.state.previous) := by
    rintro (lost | behind)
    · cases lost
    · exact absurd behind (UInt64.not_lt.2 u.zero_le)
  rw [take_of_ok _ good, if_neg ahead]

/-- After a steady probe an uptime that is behind is a discontinuity. -/
theorem steady_take (m : Monitor) {u v : UInt64} {r : Reply} (good : outcome r = .ok v)
    (back : v < u) : (m.steady u).take r = (.discontinuity, (m.steady u).restored) := by
  rw [take_of_ok _ good, if_pos (.inr back)]

/-- Of two good probes in a row whose uptimes go backwards the second is a discontinuity if the
first was steady, and steady if the first was a discontinuity. The listeners are told once that
the connection is back. -/
theorem transitions_of_regression (before : List Event) {first second : Reply} {u v : UInt64}
    (hu : outcome first = .ok u) (hv : outcome second = .ok v) (back : v < u) :
    let earlier := fresh.run before
    let later := fresh.run (before ++ [.probed first, .probed second])
    (later.1 = earlier.1 ++ [.steady, .discontinuity] ∨
      later.1 = earlier.1 ++ [.discontinuity, .steady]) ∧
    later.2.notices = earlier.2.notices ++ [.restored] := by
  intro earlier later
  by_cases reset : earlier.2.state.lost ∨ u < earlier.2.state.previous
  · have one := (take_of_ok earlier.2 hu).trans (if_pos reset)
    have both : later = _ := run_two_probes before rfl one (restored_take _ hv)
    rw [both]
    exact ⟨.inr rfl, rfl⟩
  · have one := (take_of_ok earlier.2 hu).trans (if_neg reset)
    have both : later = _ := run_two_probes before rfl one (steady_take _ hv back)
    rw [both]
    exact ⟨.inl rfl, rfl⟩

/-- The switch restarts after a steady probe. -/
theorem transitions_of_regression_restart :
    outcome (upFor 2 40) = .ok 160 ∧ outcome (upFor 1 40) = .ok 100 ∧ (100 : UInt64) < 160 ∧
    (fresh.run [.probed (upFor 2 0), .probed (upFor 2 40), .probed (upFor 1 40)]).2.notices =
      [.restored, .restored] := by
  have hu : outcome (upFor 2 40) = .ok 160 := rfl
  have hv : outcome (upFor 1 40) = .ok 100 := rfl
  refine ⟨hu, hv, by decide, ?_⟩
  have told := (transitions_of_regression [.probed (upFor 2 0)] hu hv (by decide)).2
  have once : (fresh.run [.probed (upFor 2 0)]).2.notices = [.restored] := by decide +kernel
  rw [once] at told
  exact told

/-- The switch restarts after the first probe of all, which is a discontinuity: the second probe
is steady although its uptime is behind. -/
theorem regression_missed :
    ¬∀ (before : List Event) (first second : Reply) (u v : UInt64),
      outcome first = .ok u → outcome second = .ok v → v < u →
      (fresh.run (before ++ [.probed first, .probed second])).1.getLast? =
        some .discontinuity := by
  intro claim
  have last := claim [] (upFor 2 40) (upFor 1 40) 160 100 rfl rfl
    (by decide)
  have missed : (fresh.run [.probed (upFor 2 40), .probed (upFor 1 40)]).1 =
      [.discontinuity, .steady] := by
    decide +kernel
  rw [List.nil_append, missed] at last
  exact absurd last (by decide)

end Monitor

end LeaseRoutes.Heartbeat
