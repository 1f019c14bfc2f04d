import LeaseRoutes.Proofs.Exporter.Restoration

namespace LeaseRoutes

open Switch

/-- The job is an operation, and all batches that belong to it have a property. -/
def Job.Brings (store : LeaseStore) (P : Rpc.Batch → Prop) (job : Job) : Prop :=
  ∃ i d, job = .route i d ∧ ∀ answer, ∀ b ∈ (Stage.plan store i d).batches answer, P b

namespace Exporter

variable {σ : Type} (channel : Channel σ) (store : LeaseStore)

/-! ## What is left -/

theorem load_append (a b : List Job) : load store (a ++ b) = load store a + load store b := by
  induction a with
  | nil => simp [load]
  | cons job a ih =>
    simp only [List.cons_append, load, ih]
    omega

theorem load_routes (intents : List Intent) (d : Direction) :
    load store (intents.map fun i => .route i d) = intents.length := by
  induction intents with
  | nil => rfl
  | cons i intents ih =>
    simp only [List.map_cons, load, weight, ih, List.length_cons]
    omega

/-- A job submits fewer routes than it stands for. -/
theorem runJob_queue (x : Exporter σ) (job : Job) :
    ∃ added : List Intent,
      (runJob channel store x job).queue = x.queue ++ added.map (fun i => .route i .apply) ∧
        added.length < weight store job := by
  cases job with
  | route i d =>
    have same : (runJob channel store x (.route i d)).queue = x.queue :=
      (SameWork.run channel store x i d).queue
    exact ⟨[], by simpa using same, Nat.one_pos⟩
  | survey => exact ⟨[], (List.append_nil _).symm, Nat.one_pos⟩
  | resync =>
    cases answer : surveyed (channel.exchange x.switch surveyBatch).1 with
    | error e =>
      rw [runJob_resync_error channel store x answer]
      exact ⟨[], (List.append_nil _).symm, Nat.add_pos_left Nat.one_pos _⟩
    | ok map =>
      let asked := (x.send channel surveyBatch).2
      have few := (taken_sublist asked.accepts asked.offered (Resync.intents store map)).length_le
      have all := Resync.length_intents_le store map
      rw [runJob_resync_ok channel store x answer]
      exact ⟨_, resync_taken store asked map, by rw [weight]; omega⟩

theorem load_runJob_lt (x : Exporter σ) (job : Job) :
    load store (runJob channel store x job).queue < weight store job + load store x.queue := by
  obtain ⟨added, queue, few⟩ := runJob_queue channel store x job
  rw [queue, load_append, load_routes]
  omega

theorem drainUpTo_queue (bound : Nat) (x : Exporter σ) (enough : load store x.queue ≤ bound) :
    (drainUpTo channel store bound x).2.queue = [] := by
  induction bound generalizing x with
  | zero =>
    cases queued : x.queue with
    | nil => exact queued
    | cons job rest =>
      -- Every job weighs something, so no work fits the bound.
      rw [queued, load] at enough
      cases job <;> simp only [weight] at enough <;> omega
  | succ bound ih =>
    cases queued : x.queue with
    | nil =>
      rw [drainUpTo_nil channel store _ queued]
      exact queued
    | cons job rest =>
      have less := load_runJob_lt channel store { x with queue := rest } job
      rw [queued, load] at enough
      rw [drainUpTo_cons channel store bound queued]
      exact ih _ (by simp only at less; omega)

theorem drain_queue (x : Exporter σ) : (x.drain channel store).2.queue = [] :=
  drainUpTo_queue channel store _ x (Nat.le_refl _)

/-! ## What is sent -/

/-- Everything that is sent on the way from `x` to `y` has a property. -/
def Sends (P : Rpc.Batch → Prop) (x y : Exporter σ) : Prop :=
  ∃ batches, y.sent = x.sent ++ batches ∧ ∀ b ∈ batches, P b

theorem Sends.of_eq {P : Rpc.Batch → Prop} {x y : Exporter σ} (h : y.sent = x.sent) :
    Sends P x y :=
  ⟨[], by simpa using h, nofun⟩

theorem Sends.trans {P : Rpc.Batch → Prop} {x y z : Exporter σ} (h : Sends P x y)
    (k : Sends P y z) : Sends P x z := by
  obtain ⟨a, first, inA⟩ := h
  obtain ⟨b, second, inB⟩ := k
  refine ⟨a ++ b, by rw [second, first, List.append_assoc], fun c member => ?_⟩
  exact (List.mem_append.1 member).elim (inA c) (inB c)

theorem sends_single {P : Rpc.Batch → Prop} {x y : Exporter σ} {b : Rpc.Batch}
    (sent : y.sent = x.sent ++ [b]) (h : P b) : Sends P x y := by
  refine ⟨[b], sent, fun c member => ?_⟩
  rw [List.mem_singleton.1 member]
  exact h

/-- Operations send what belongs to them and nothing else. -/
theorem drainUpTo_sends {P : Rpc.Batch → Prop} (bound : Nat) (x : Exporter σ)
    (queued : ∀ j ∈ x.queue, j.Brings store P) :
    Sends P x (drainUpTo channel store bound x).2 := by
  induction bound generalizing x with
  | zero => exact .of_eq rfl
  | succ bound ih =>
    cases queue : x.queue with
    | nil =>
      rw [drainUpTo_nil channel store _ queue]
      exact .of_eq rfl
    | cons job rest =>
      rw [queue] at queued
      obtain ⟨i, d, rfl, brings⟩ := queued job (List.mem_cons_self ..)
      let others : Exporter σ := { x with queue := rest }
      have left : (others.run channel store i d).2.queue = rest :=
        (SameWork.run channel store others i d).queue
      have first : Sends P x (others.run channel store i d).2 :=
        ⟨_, run_sent channel store others i d, brings _⟩
      rw [drainUpTo_cons channel store bound queue]
      refine first.trans (ih _ fun j member => ?_)
      exact queued j (List.mem_cons_of_mem _ (left ▸ member))

/-- A resync that stands alone in the queue sends its survey and what belongs to the routes over the
map that the survey brings. -/
theorem drain_resync_sends {P : Rpc.Batch → Prop} {x : Exporter σ} (queued : x.queue = [.resync])
    (surveys : P surveyBatch)
    (routes : ∀ map, (x.survey channel).1 = .ok map → ∀ i ∈ Resync.intents store map,
      ∀ answer, ∀ b ∈ (Stage.plan store i .apply).batches answer, P b) :
    Sends P x (x.drain channel store).2 := by
  let idle : Exporter σ := { x with queue := [] }
  have bound : load store x.queue = store.size + 1 := by
    rw [queued]
    exact Nat.add_comm 1 store.size
  rw [drain, bound, drainUpTo_cons channel store _ queued]
  cases answer : surveyed (channel.exchange x.switch surveyBatch).1 with
  | error e =>
    rw [runJob_resync_error channel store idle answer, drainUpTo_nil channel store _ rfl]
    exact sends_single rfl surveys
  | ok map =>
    let asked := (idle.send channel surveyBatch).2
    have asks : Sends P x (asked.resync store map).2 :=
      sends_single (resync_sameWorld store asked map).sent surveys
    have queue : (asked.resync store map).2.queue =
        (taken asked.accepts asked.offered (Resync.intents store map)).map fun i =>
          .route i .apply := resync_taken store asked map
    rw [runJob_resync_ok channel store idle answer]
    refine asks.trans (drainUpTo_sends channel store _ _ fun j member => ?_)
    rw [queue] at member
    obtain ⟨i, submitted, rfl⟩ := List.mem_map.1 member
    exact ⟨i, .apply, rfl, routes map answer i ((taken_sublist _ _ _).subset submitted)⟩

end Exporter

end LeaseRoutes
