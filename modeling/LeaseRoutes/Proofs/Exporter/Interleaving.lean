import LeaseRoutes.Exporter.Operations
import LeaseRoutes.Proofs.Exporter.Course
import Mathlib.Algebra.GroupWithZero.Nat
/-!
Operations that are under way at the same time leave each other alone, as long as the reply to a
batch depends on that batch only. Every turn takes something from what an operation still has to do
and adds it to what was counted.
-/

namespace LeaseRoutes

open Switch Metrics

variable {σ : Type}

/-- The reply to a batch depends on the batch only, whatever the switch was told before. -/
def Switch.Channel.Steady (channel : Channel σ) : Prop :=
  ∀ before before' b, (channel.exchange before b).1 = (channel.exchange before' b).1

/-- Counters that are read and then added up read as the sum of what they counted. -/
theorem reading_sum_readings (ns : List Nat) : reading (ns.map reading).sum = reading ns.sum := by
  induction ns with
  | nil => rfl
  | cons n ns ih => exact reading_add (reading_reading n) ih

/-- What is counted of operations: how they ended, how long they took, how many siblings planning
met, and how often a batch was sent. -/
inductive Tally
  | applied
  | removed
  | noop
  | failures
  | duplicates
  | latencies
  | batch (b : Rpc.Batch)

namespace Tally

def value (x : Exporter σ) : Tally → Nat
  | applied => x.counters.applied
  | removed => x.counters.removed
  | noop => x.counters.noop
  | failures => x.counters.failures
  | duplicates => x.counters.duplicates
  | latencies => x.counters.latencies.length
  | batch b => x.sent.count b

theorem value_fresh (switch : σ) (q : Tally) : q.value (Exporter.fresh switch) = 0 := by
  cases q <;> rfl

end Tally

/-- From one exporter and from another, the same became of an operation and the same was counted. -/
structure Alike (x y : Exporter σ) (p r : Operation × Exporter σ) : Prop where
  operation : p.1 = r.1
  tally : ∀ q : Tally, q.value p.2 + q.value y = q.value r.2 + q.value x

namespace Operation

variable (channel : Channel σ) (store : LeaseStore)

/-! ## One turn -/

theorem alike_plan (o : Operation) (i : Intent) (d : Direction) (x y : Exporter σ) :
    Alike x y (o, (x.plan store i d).2) (o, (y.plan store i d).2) where
  operation := rfl
  tally q := by
    cases q <;>
      simp only [Tally.value, Exporter.plan, Exporter.count, Metrics.RouteCounters.duplicate] <;>
      omega

theorem alike_send (o : Operation) (b : Rpc.Batch) (x y : Exporter σ) :
    Alike x y (o, (x.send channel b).2) (o, (y.send channel b).2) where
  operation := rfl
  tally q := by
    cases q <;> simp only [Tally.value, Exporter.send, List.count_append] <;> omega

theorem alike_received (o : Operation) (s : Stage) (r : Reply) (x y : Exporter σ) :
    Alike x y (o, x.received s r) (o, y.received s r) where
  operation := rfl
  tally q := by
    cases s with
    | change c =>
      simp only [Exporter.received, Exporter.count, Exporter.judged]
      split <;> cases q <;>
        simp only [Tally.value, Metrics.RouteCounters.routeApplied,
          Metrics.RouteCounters.routeRemoved, Metrics.RouteCounters.benign] <;> omega
    | lookup | done | failed => exact Nat.add_comm _ _

theorem alike_finish (o : Operation) (s : Stage) (x y : Exporter σ) :
    Alike x y (o, x.finish s) (o, y.finish s) where
  operation := rfl
  tally q := by
    cases s <;> cases q <;>
      simp only [Tally.value, Exporter.finish, Exporter.count, Metrics.RouteCounters.latency,
        Metrics.RouteCounters.failure, List.length_append, List.length_singleton] <;> omega

variable {channel} in
theorem alike_turn (steady : channel.Steady) (o : Operation) (x y : Exporter σ) :
    Alike x y (o.turn channel store x) (o.turn channel store y) := by
  unfold turn
  split
  · exact alike_plan store _ _ _ x y
  · split
    · rename_i b _
      have reply : (x.send channel b).1 = (y.send channel b).1 := steady x.switch y.switch b
      have sent := alike_send channel o b x y
      exact ⟨by simp only [reply], sent.tally⟩
    · exact alike_finish _ _ x y
  · exact alike_received _ _ _ x y
  · exact ⟨rfl, fun q => Nat.add_comm _ _⟩

/-! ## Many turns -/

/-- Gives an operation turns of which no other takes notice. -/
def turns : Nat → Operation → Exporter σ → Operation × Exporter σ
  | 0, o, x => (o, x)
  | n + 1, o, x => turns n (o.turn channel store x).1 (o.turn channel store x).2

theorem turns_add (m n : Nat) (o : Operation) (x : Exporter σ) :
    o.turns channel store (m + n) x =
      (o.turns channel store m x).1.turns channel store n (o.turns channel store m x).2 := by
  induction m generalizing o x with
  | zero => rw [Nat.zero_add]; rfl
  | succ m ih =>
    rw [Nat.succ_add]
    exact ih _ _

variable {channel} in
theorem alike_turns (steady : channel.Steady) (n : Nat) (o : Operation) (x y : Exporter σ) :
    Alike x y (o.turns channel store n x) (o.turns channel store n y) := by
  induction n generalizing o x y with
  | zero => exact ⟨rfl, fun q => Nat.add_comm _ _⟩
  | succ n ih =>
    have now := alike_turn store steady o x y
    have later :=
      ih (o.turn channel store x).1 (o.turn channel store x).2 (o.turn channel store y).2
    have same : o.turns channel store (n + 1) y = (o.turn channel store x).1.turns channel store n
        (o.turn channel store y).2 := by rw [now.operation]; rfl
    rw [same]
    refine ⟨later.operation, fun q => ?_⟩
    have first := now.tally q
    have rest := later.tally q
    simp only [turns]
    omega

/-- How many turns an operation may still need. -/
def remaining (o : Operation) : Nat :=
  match o.progress with
  | .waiting => 6
  | .ready s => 2 * s.rank + 1
  | .asked s r => 2 * (s.next r).rank + 2
  | .ended _ => 0

theorem remaining_turn (o : Operation) (x : Exporter σ) :
    (o.turn channel store x).1.remaining ≤ o.remaining - 1 := by
  cases at_ : o.progress with
  | waiting =>
    have plan := Stage.rank_le (.plan store o.intent o.direction)
    simp only [turn, at_, remaining, Exporter.plan]
    omega
  | ready s =>
    cases request : s.request with
    | none => simp [turn, at_, request, remaining]
    | some b =>
      have goes : s.terminal = false := by rw [s.terminal_eq_isNone, request]; rfl
      have less := Stage.rank_next_lt (x.send channel b).1 goes
      simp only [turn, at_, request, remaining]
      omega
  | asked s r => simp [turn, at_, remaining]
  | ended s => simp [turn, at_, remaining]

theorem remaining_eq_zero_iff (o : Operation) : o.remaining = 0 ↔ ∃ s, o.progress = .ended s := by
  cases at_ : o.progress <;> simp [remaining, at_]

theorem turn_of_remaining {o : Operation} (h : o.remaining = 0) (x : Exporter σ) :
    o.turn channel store x = (o, x) := by
  obtain ⟨s, at_⟩ := o.remaining_eq_zero_iff.1 h
  simp only [turn, at_]

theorem turns_of_remaining {o : Operation} (h : o.remaining = 0) (n : Nat) (x : Exporter σ) :
    o.turns channel store n x = (o, x) := by
  induction n with
  | zero => rfl
  | succ n ih => rw [turns, turn_of_remaining channel store h, ih]

theorem remaining_turns (n : Nat) (o : Operation) (x : Exporter σ) :
    (o.turns channel store n x).1.remaining ≤ o.remaining - n := by
  induction n generalizing o x with
  | zero => exact Nat.le_refl _
  | succ n ih =>
    have now := remaining_turn channel store o x
    have later := ih (o.turn channel store x).1 (o.turn channel store x).2
    simp only [turns]
    omega

theorem remaining_le (o : Operation) : o.remaining ≤ 6 := by
  cases at_ : o.progress with
  | waiting | ended => simp [remaining, at_]
  | ready s =>
    have rank := s.rank_le
    simp only [remaining, at_]
    omega
  | asked s r =>
    simp only [remaining, at_]
    cases last : s.terminal with
    | true =>
      cases s with
      | lookup | change => cases last
      | done | failed => simp [Stage.next, Stage.rank]
    | false =>
      have rank := s.rank_le
      have less := Stage.rank_next_lt r last
      omega

/-- Gives an operation all the turns that it needs, and no turn to any other. -/
def conclude (o : Operation) (x : Exporter σ) : Operation × Exporter σ :=
  o.turns channel store 6 x

/-- It makes no difference to the end of an operation how much of it has been done already. -/
theorem conclude_turn (o : Operation) (x : Exporter σ) :
    (o.turn channel store x).1.conclude channel store (o.turn channel store x).2 =
      o.conclude channel store x := by
  have finished : (o.conclude channel store x).1.remaining = 0 := by
    have left := remaining_turns channel store 6 o x
    have most := o.remaining_le
    simp only [conclude]
    omega
  calc
    _ = o.turns channel store (1 + 6) x := (turns_add channel store 1 6 o x).symm
    _ = (o.conclude channel store x).1.turns channel store 1 (o.conclude channel store x).2 :=
      turns_add channel store 6 1 o x
    _ = _ := turns_of_remaining channel store finished 1 _

/-- The end of an operation depends on nothing that was done before for others. -/
theorem conclude_alike (steady : channel.Steady) (switch : σ) (o : Operation) (x : Exporter σ) :
    (o.conclude channel store x).1 = (o.conclude channel store (.fresh switch)).1 ∧
      ∀ q : Tally, q.value (o.conclude channel store x).2 =
        q.value x + q.value (o.conclude channel store (.fresh switch)).2 := by
  have alike := alike_turns store steady 6 o x (.fresh switch)
  refine ⟨alike.operation, fun q => ?_⟩
  have tally := alike.tally q
  rw [q.value_fresh] at tally
  simp only [conclude]
  omega

theorem sent_received (x : Exporter σ) (s : Stage) (r : Reply) :
    (x.received s r).sent = x.sent := by
  cases s <;> rfl

/-- Alone an operation goes on from a stage as a run does. -/
theorem turns_ready (x : Exporter σ) (s : Stage) (o : Operation) (n : Nat)
    (ready : o.progress = .ready s) (same : o.sent = x.sent) (enough : 2 * s.rank + 1 ≤ n) :
    o.turns channel store n x =
      ({ o with progress := .ended (x.settle channel s).1, sent := (x.settle channel s).2.sent },
        (x.settle channel s).2.finish (x.settle channel s).1) := by
  fun_induction Exporter.settle channel x s generalizing o n with
  | case1 x s terminal =>
    have nothing : s.request = none := by simpa [s.terminal_eq_isNone] using terminal
    obtain ⟨n, rfl⟩ : ∃ m, n = m + 1 := ⟨n - 1, by omega⟩
    have now : o.turn channel store x = ({ o with progress := .ended s }, x.finish s) := by
      simp only [turn, ready, nothing]
    rw [turns, now, turns_of_remaining channel store rfl, ← same]
  | case2 x s goes less ih =>
    obtain ⟨b, request⟩ : ∃ b, s.request = some b :=
      Option.ne_none_iff_exists'.1 (by simpa [s.terminal_eq_isNone] using goes)
    have step := x.step_of_request channel request
    rw [step] at less ih
    obtain ⟨n, rfl⟩ : ∃ m, n = m + 2 := ⟨n - 2, by omega⟩
    let r := (x.send channel b).1
    let later : Operation := { o with progress := .ready (s.next r), sent := o.sent ++ [b] }
    have two : o.turns channel store (n + 2) x =
        later.turns channel store n ((x.send channel b).2.received s r) := by
      simp only [turns, turn, ready, request]
      rfl
    have sent : later.sent = ((x.send channel b).2.received s r).sent := by
      rw [sent_received, Exporter.send, ← same]
    rw [two, step]
    exact ih later n rfl sent (by omega)

/-- An operation that is alone from its start is run. -/
theorem conclude_start (switch : σ) (i : Intent) (d : Direction) :
    let (s, x) := (Exporter.fresh switch).run channel store i d
    (start i d).conclude channel store (.fresh switch) = (⟨i, d, .ended s, x.sent⟩, x) := by
  have first := (Stage.plan store i d).rank_le
  have rest := turns_ready channel store ((Exporter.fresh switch).plan store i d).2
    (.plan store i d) ⟨i, d, .ready (.plan store i d), []⟩ 5 rfl rfl (by omega)
  exact rest

end Operation

/-! ## A crew -/

namespace Crew

open Operation

variable (channel : Channel σ) (store : LeaseStore)

/-- A turn is that of one operation, or there is no such operation. -/
theorem turn_cases (c : Crew σ) (k : Nat) :
    (c.operations.length ≤ k ∧ c.turn channel store k = c) ∨
      ∃ before o after, c.operations = before ++ o :: after ∧ before.length = k ∧
        c.turn channel store k = ⟨(o.turn channel store c.exporter).2,
          before ++ (o.turn channel store c.exporter).1 :: after⟩ := by
  cases at_ : c.operations[k]? with
  | none => exact .inl ⟨List.getElem?_eq_none_iff.1 at_, by simp only [turn, at_]⟩
  | some o =>
    obtain ⟨bound, rfl⟩ := List.getElem?_eq_some_iff.1 at_
    obtain ⟨before, after, split, length, changed⟩ :
        ∃ before after, c.operations = before ++ c.operations[k] :: after ∧ before.length = k ∧
          c.operations.set k (c.operations[k].turn channel store c.exporter).1 =
            before ++ (c.operations[k].turn channel store c.exporter).1 :: after :=
      List.exists_of_set bound
    refine .inr ⟨before, c.operations[k], after, split, length, ?_⟩
    simp only [turn, at_, changed]

/-! ### What the operations still do -/

/-- What becomes of the operations. -/
def ends (switch : σ) (c : Crew σ) : List Operation :=
  c.operations.map fun o => (o.conclude channel store (.fresh switch)).1

/-- What is counted together with what the operations still add to it. -/
def prospect (switch : σ) (c : Crew σ) (q : Tally) : Nat :=
  q.value c.exporter +
    (c.operations.map fun o => q.value (o.conclude channel store (.fresh switch)).2).sum

variable {channel}

/-- What a turn takes from the work that is left it adds to what was counted. -/
theorem turn_keeps (steady : channel.Steady) (switch : σ) (c : Crew σ) (k : Nat) :
    (c.turn channel store k).ends channel store switch = c.ends channel store switch ∧
      ∀ q, (c.turn channel store k).prospect channel store switch q =
        c.prospect channel store switch q := by
  obtain ⟨-, same⟩ | ⟨before, o, after, split, -, turned⟩ := turn_cases channel store c k
  · rw [same]
    exact ⟨rfl, fun _ => rfl⟩
  · obtain ⟨same, rest⟩ := conclude_alike channel store steady switch
      (o.turn channel store c.exporter).1 (o.turn channel store c.exporter).2
    obtain ⟨same', all⟩ := conclude_alike channel store steady switch o c.exporter
    rw [conclude_turn] at same rest
    rw [turned]
    constructor
    · simp only [ends, split, List.map_append, List.map_cons, ← same, same']
    · intro q
      have rest := rest q
      have all := all q
      simp only [prospect, split, List.map_append, List.map_cons, List.sum_append, List.sum_cons]
      omega

theorem run_keeps (steady : channel.Steady) (switch : σ) (c : Crew σ) (schedule : List Nat) :
    (c.run channel store schedule).ends channel store switch = c.ends channel store switch ∧
      ∀ q, (c.run channel store schedule).prospect channel store switch q =
        c.prospect channel store switch q := by
  induction schedule generalizing c with
  | nil => exact ⟨rfl, fun _ => rfl⟩
  | cons k schedule ih =>
    obtain ⟨ends, prospect⟩ := turn_keeps store steady switch c k
    obtain ⟨ends', prospect'⟩ := ih (c.turn channel store k)
    exact ⟨ends'.trans ends, fun q => (prospect' q).trans (prospect q)⟩

variable (channel)

theorem ends_start (switch : σ) (ops : List (Intent × Direction)) :
    (start switch ops).ends channel store switch = ops.map fun o =>
      let (s, x) := (Exporter.fresh switch).run channel store o.1 o.2
      ⟨o.1, o.2, .ended s, x.sent⟩ := by
  rw [ends, start, List.map_map]
  refine List.map_congr_left fun o _ => ?_
  exact congrArg Prod.fst (conclude_start channel store switch o.1 o.2)

theorem prospect_start (switch : σ) (ops : List (Intent × Direction)) (q : Tally) :
    (start switch ops).prospect channel store switch q =
      (ops.map fun o => q.value ((Exporter.fresh switch).run channel store o.1 o.2).2).sum := by
  rw [prospect, start, q.value_fresh, Nat.zero_add, List.map_map]
  refine congrArg List.sum (List.map_congr_left fun o _ => ?_)
  exact congrArg (fun p => q.value p.2) (conclude_start channel store switch o.1 o.2)

/-- All operations have ended and were counted. -/
def Over (c : Crew σ) : Prop := ∀ o ∈ c.operations, ∃ s, o.progress = .ended s

section Over

variable {c : Crew σ} (finished : c.Over) (switch : σ)

include finished

/-- Operations that have ended do nothing more. -/
theorem conclude_of_over {o : Operation} (member : o ∈ c.operations) (x : Exporter σ) :
    o.conclude channel store x = (o, x) :=
  o.turns_of_remaining channel store (o.remaining_eq_zero_iff.2 (finished o member)) 6 x

theorem ends_of_over : c.ends channel store switch = c.operations := by
  have same : ∀ o ∈ c.operations, (o.conclude channel store (.fresh switch)).1 = o := by
    intro o member
    rw [conclude_of_over channel store finished member]
  rw [ends, List.map_congr_left same, List.map_id']

theorem prospect_of_over (q : Tally) :
    c.prospect channel store switch q = q.value c.exporter := by
  have nothing : ∀ o ∈ c.operations, q.value (o.conclude channel store (.fresh switch)).2 = 0 := by
    intro o member
    rw [conclude_of_over channel store finished member, q.value_fresh]
  rw [prospect, List.sum_eq_zero_iff_forall_eq_nat.2 (List.forall_mem_map.2 nothing), Nat.add_zero]

end Over

/-! ### How many turns are needed -/

theorem turn_remaining (c : Crew σ) (j k : Nat) {o : Operation}
    (h : (c.turn channel store j).operations[k]? = some o) :
    ∃ p, c.operations[k]? = some p ∧ o.remaining ≤ p.remaining - if j = k then 1 else 0 := by
  obtain ⟨outside, same⟩ | ⟨before, p, after, split, rfl, turned⟩ := turn_cases channel store c j
  · rw [same] at h
    obtain ⟨inside, -⟩ := List.getElem?_eq_some_iff.1 h
    have other : j ≠ k := by omega
    exact ⟨o, h, by simp [other]⟩
  · rw [turned] at h
    rw [split]
    by_cases own : before.length = k
    · subst own
      have turn := remaining_turn channel store p c.exporter
      obtain rfl : (p.turn channel store c.exporter).1 = o := by simpa using h
      exact ⟨p, by simp, by simpa using turn⟩
    · refine ⟨o, ?_, by simp [own]⟩
      rw [List.getElem?_append, List.getElem?_cons] at h ⊢
      by_cases low : k < before.length
      · rwa [if_pos low] at h ⊢
      · rw [if_neg low, if_neg (by omega)] at h ⊢
        exact h

/-- An operation that had as many turns as it may need is finished. -/
theorem run_remaining (c : Crew σ) (schedule : List Nat) (k : Nat) {o : Operation}
    (h : (c.run channel store schedule).operations[k]? = some o) :
    ∃ p, c.operations[k]? = some p ∧ o.remaining ≤ p.remaining - schedule.count k := by
  induction schedule generalizing c with
  | nil => exact ⟨o, h, Nat.le_refl _⟩
  | cons j schedule ih =>
    obtain ⟨p, at_, less⟩ := ih (c.turn channel store j) h
    obtain ⟨p', at', less'⟩ := turn_remaining channel store c j k at_
    refine ⟨p', at', ?_⟩
    rw [List.count_cons]
    simp only [beq_iff_eq]
    omega

end Crew

/-- Operations are under way at the same time, the switch answers a batch always alike, and turns
are given in any order. Six turns for each operation suffice to end them all. Once they have ended,
each has sent what it sends when it is run alone and has ended in the same stage, and each tally is
the sum of those of the single runs, whatever the order was; so is what is read of it, as a word. -/
theorem interleaving_independent {channel : Channel σ} (steady : channel.Steady)
    (store : LeaseStore) (switch : σ) (ops : List (Intent × Direction)) (schedule : List Nat) :
    let alone := fun o : Intent × Direction =>
      (Exporter.fresh switch).run channel store o.1 o.2
    let c := (Crew.start switch ops).run channel store schedule
    ((∀ k < ops.length, 6 ≤ schedule.count k) → c.Over) ∧
      (c.Over →
        c.operations = ops.map (fun o => ⟨o.1, o.2, .ended (alone o).1, (alone o).2.sent⟩) ∧
          ∀ q : Tally, q.value c.exporter = (ops.map fun o => q.value (alone o).2).sum ∧
            reading (q.value c.exporter) =
              reading (ops.map fun o => reading (q.value (alone o).2)).sum) := by
  intro alone c
  constructor
  · intro fair o member
    obtain ⟨k, at_⟩ := List.mem_iff_getElem?.1 member
    obtain ⟨p, first, less⟩ := Crew.run_remaining channel store _ schedule k at_
    have bound : k < ops.length := by
      obtain ⟨bound, -⟩ := List.getElem?_eq_some_iff.1 first
      simpa [Crew.start] using bound
    have most := p.remaining_le
    have turns := fair k bound
    exact o.remaining_eq_zero_iff.1 (by omega)
  · intro finished
    obtain ⟨ends, prospect⟩ := Crew.run_keeps store steady switch (.start switch ops) schedule
    constructor
    · calc
        c.operations = c.ends channel store switch :=
          (Crew.ends_of_over channel store finished switch).symm
        _ = (Crew.start switch ops).ends channel store switch := ends
        _ = _ := Crew.ends_start channel store switch ops
    · intro q
      have sum : q.value c.exporter = (ops.map fun o => q.value (alone o).2).sum := calc
        q.value c.exporter = c.prospect channel store switch q :=
          (Crew.prospect_of_over channel store finished switch q).symm
        _ = (Crew.start switch ops).prospect channel store switch q := prospect q
        _ = _ := Crew.prospect_start channel store switch ops q
      refine ⟨sum, ?_⟩
      rw [sum, ← reading_sum_readings, List.map_map]
      rfl

/-- A client comes while another one goes. The switch tells both interfaces, and the two operations
have turns one after the other to their last replies. -/
theorem interleaving_independent_alternating :
    let channel := Sample.behind "Vlan5"
    let schedule := [0, 1, 0, 1, 0, 1, 0, 1, 0, 1, 0, 1]
    let first := (Exporter.fresh ()).run channel (.ofList []) Sample.arrival .apply
    let second := (Exporter.fresh ()).run channel (.ofList []) Sample.departure .remove
    let c := (Crew.start () [(Sample.arrival, .apply), (Sample.departure, .remove)]).run channel
      (.ofList []) schedule
    channel.Steady ∧ (∀ k < 2, 6 ≤ schedule.count k) ∧ c.Over ∧
      c.operations = [⟨Sample.arrival, .apply, .ended first.1, first.2.sent⟩,
        ⟨Sample.departure, .remove, .ended second.1, second.2.sent⟩] ∧
      first.2.sent = [.single "show ipv6 route 2001:db8::1/128",
        .single "ipv6 route 2001:db8::20/128 Vlan5"] ∧
      second.2.sent = [.single "show ipv6 route 2001:db8::20/128",
        ⟨[⟨1, "no ipv6 route 2001:db8::20/128 Vlan5"⟩,
          ⟨2, "clear ipv6 neighbor Vlan5 force-delete"⟩]⟩] ∧
      ∀ q : Tally, q.value c.exporter = q.value first.2 + q.value second.2 := by
  intro channel schedule first second c
  have steady : channel.Steady := fun _ _ _ => rfl
  have fair : ∀ k < 2, 6 ≤ schedule.count k := by decide
  obtain ⟨suffice, apart⟩ := interleaving_independent steady (.ofList []) ()
    [(Sample.arrival, .apply), (Sample.departure, .remove)] schedule
  have finished : c.Over := suffice fair
  obtain ⟨operations, tallies⟩ := apart finished
  refine ⟨steady, fair, finished, operations, ?_, ?_, fun q => (tallies q).1⟩
  · rw [Exporter.run_sent]
    decide +kernel
  · rw [Exporter.run_sent]
    decide +kernel

end LeaseRoutes
