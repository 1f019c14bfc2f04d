import LeaseRoutes.Proofs.Exporter.Course
import Mathlib.Data.List.Forall2

namespace LeaseRoutes.Exporter

open Switch

variable {σ : Type} (channel : Channel σ) (store : LeaseStore)

/-! ## Offers -/

/-- What is taken of things that are offered one after the other from the `n`-th offer on. -/
def taken {α : Type} (accepts : Nat → Bool) : Nat → List α → List α
  | _, [] => []
  | n, a :: offers =>
    let later := taken accepts (n + 1) offers
    if accepts n then a :: later else later

theorem taken_eq_self {α : Type} {accepts : Nat → Bool} {n : Nat} {offers : List α}
    (h : ∀ m, n ≤ m → m < n + offers.length → accepts m = true) :
    taken accepts n offers = offers := by
  induction offers generalizing n with
  | nil => rfl
  | cons a offers ih =>
    have now : accepts n = true := h n (Nat.le_refl _) (by simp)
    have later : taken accepts (n + 1) offers = offers :=
      ih fun m lo hi => h m (by omega) (by simp only [List.length_cons]; omega)
    simp only [taken, now, later, ↓reduceIte]

theorem taken_append {α : Type} (accepts : Nat → Bool) (n : Nat) (first second : List α) :
    taken accepts n (first ++ second) =
      taken accepts n first ++ taken accepts (n + first.length) second := by
  induction first generalizing n with
  | nil => rfl
  | cons a first ih =>
    have later : n + 1 + first.length = n + (first.length + 1) := by omega
    cases now : accepts n <;> simp [taken, now, ih, later]

theorem taken_map {α β : Type} (f : α → β) (accepts : Nat → Bool) (n : Nat) (offers : List α) :
    taken accepts n (offers.map f) = (taken accepts n offers).map f := by
  induction offers generalizing n with
  | nil => rfl
  | cons a offers ih => cases now : accepts n <;> simp [taken, now, ih]

/-- What corresponds before the offers corresponds after them. -/
theorem taken_forall₂ {α β : Type} {R : α → β → Prop} {as : List α} {bs : List β}
    (h : List.Forall₂ R as bs) (accepts : Nat → Bool) (n : Nat) :
    List.Forall₂ R (taken accepts n as) (taken accepts n bs) := by
  induction h generalizing n with
  | nil => exact .nil
  | cons head _ ih =>
    cases now : accepts n with
    | true => simpa only [taken, now, ↓reduceIte] using .cons head (ih (n + 1))
    | false => simpa only [taken, now, Bool.false_eq_true, ↓reduceIte] using ih (n + 1)

theorem taken_sublist {α : Type} (accepts : Nat → Bool) (n : Nat) (offers : List α) :
    (taken accepts n offers).Sublist offers := by
  induction offers generalizing n with
  | nil => exact .slnil
  | cons a offers ih =>
    have later := ih (n + 1)
    cases now : accepts n with
    | true => simpa only [taken, now, ↓reduceIte] using later.cons_cons a
    | false => simpa only [taken, now, Bool.false_eq_true, ↓reduceIte] using later.cons a

/-! ## Submitting work -/

/-- Submits work piece by piece. -/
def submitAll (x : Exporter σ) (jobs : List Job) : Exporter σ :=
  jobs.foldl (fun x job => (x.submit job).2) x

/-- What is taken stands at the end of the queue, and nothing else is changed. -/
theorem submitAll_eq (x : Exporter σ) (jobs : List Job) :
    x.submitAll jobs =
      { x with
        queue := x.queue ++ taken x.accepts x.offered jobs
        offered := x.offered + jobs.length } := by
  induction jobs generalizing x with
  | nil => simp [submitAll, taken]
  | cons job jobs ih =>
    have later := ih (x.submit job).2
    simp only [submitAll, List.foldl_cons, submit] at later ⊢
    rw [later]
    cases now : x.accepts x.offered <;> simp [taken, now, Nat.add_comm 1, Nat.add_assoc]

/-- Submits routes that are to be applied. -/
def submitRoutes (x : Exporter σ) (intents : List Intent) : Exporter σ :=
  intents.foldl (fun x i => (x.submit (.route i .apply)).2) x

theorem submitRoutes_eq (x : Exporter σ) (intents : List Intent) :
    x.submitRoutes intents =
      { x with
        queue := x.queue ++ (taken x.accepts x.offered intents).map fun i => .route i .apply
        offered := x.offered + intents.length } := by
  have all : x.submitRoutes intents = x.submitAll (intents.map fun i => .route i .apply) := by
    rw [submitAll, List.foldl_map]
    rfl
  rw [all, submitAll_eq, taken_map, List.length_map]

/-- The queue takes the next `count` pieces of work. -/
def Takes (x : Exporter σ) (count : Nat) : Prop :=
  ∀ n, x.offered ≤ n → n < x.offered + count → x.accepts n = true

theorem submit_of_accepts (x : Exporter σ) (job : Job) (h : x.accepts x.offered = true) :
    (x.submit job).2.queue = x.queue ++ [job] := by
  simp [submit, h]

theorem mem_submit {x : Exporter σ} {job j : Job} (h : j ∈ (x.submit job).2.queue) :
    j ∈ x.queue ∨ j = job := by
  simp only [submit] at h
  split at h
  · exact (List.mem_append.1 h).imp_right List.mem_singleton.1
  · exact .inl h

theorem submitRoutes_offered (x : Exporter σ) (intents : List Intent) :
    (x.submitRoutes intents).offered = x.offered + intents.length := by
  rw [submitRoutes_eq]

theorem submitRoutes_taken (x : Exporter σ) (intents : List Intent) :
    (x.submitRoutes intents).queue =
      x.queue ++ (taken x.accepts x.offered intents).map fun i => .route i .apply := by
  rw [submitRoutes_eq]

theorem submitRoutes_queue (x : Exporter σ) (intents : List Intent)
    (h : x.Takes intents.length) :
    (x.submitRoutes intents).queue = x.queue ++ intents.map fun i => .route i .apply := by
  rw [submitRoutes_taken, taken_eq_self h]

/-- Submitting changes nothing but the queue and the number of offers. -/
structure SameWorld (x y : Exporter σ) : Prop where
  switch : y.switch = x.switch
  sent : y.sent = x.sent
  accepts : y.accepts = x.accepts
  surveys : y.surveys = x.surveys
  failures : y.failures = x.failures

theorem submitRoutes_sameWorld (x : Exporter σ) (intents : List Intent) :
    SameWorld x (x.submitRoutes intents) := by
  rw [submitRoutes_eq]
  exact ⟨rfl, rfl, rfl, rfl, rfl⟩

/-! ## Running jobs -/

theorem runFirst_nil {x : Exporter σ} (h : x.queue = []) : x.runFirst channel store = x := by
  simp [runFirst, h]

theorem runFirst_cons {x : Exporter σ} {job : Job} {rest : List Job} (h : x.queue = job :: rest) :
    x.runFirst channel store = runJob channel store { x with queue := rest } job := by
  simp [runFirst, h]

theorem drainUpTo_nil (bound : Nat) {x : Exporter σ} (h : x.queue = []) :
    drainUpTo channel store bound x = (0, x) := by
  cases bound with
  | zero => rfl
  | succ bound => simp [drainUpTo, h]

theorem drainUpTo_cons (bound : Nat) {x : Exporter σ} {job : Job} {rest : List Job}
    (h : x.queue = job :: rest) :
    (drainUpTo channel store (bound + 1) x).2 =
      (drainUpTo channel store bound (runJob channel store { x with queue := rest } job)).2 := by
  simp [drainUpTo, h, runFirst_cons channel store h]

/-- All that an operation sends is one batch, known without a lookup. -/
def Known (i : Intent) (d : Direction) (b : Rpc.Batch) : Prop :=
  ∃ c, Stage.plan store i d = .change c ∧ c.batch = b

theorem run_sent_of_known (x : Exporter σ) {i : Intent} {d : Direction} {b : Rpc.Batch}
    (h : Known store i d b) : (x.run channel store i d).2.sent = x.sent ++ [b] := by
  obtain ⟨c, first, rfl⟩ := h
  rw [run_sent, first]
  rfl

/-- Draining routes whose batches are known sends these in order, whatever the replies. -/
theorem drainUpTo_known {intents : List Intent} {batches : List Rpc.Batch} (bound : Nat)
    (x : Exporter σ) (queued : x.queue = intents.map fun i => .route i .apply)
    (known : List.Forall₂ (fun i b => Known store i .apply b) intents batches)
    (enough : intents.length ≤ bound) :
    let y := (drainUpTo channel store bound x).2
    y.queue = [] ∧ y.sent = x.sent ++ batches ∧ y.failures = x.failures := by
  induction known generalizing x bound with
  | nil =>
    rw [drainUpTo_nil channel store bound queued]
    exact ⟨queued, (List.append_nil _).symm, rfl⟩
  | @cons i b intents batches head _ ih =>
    cases bound with
    | zero => simp at enough
    | succ bound =>
      let rest : Exporter σ := { x with queue := intents.map fun i => .route i .apply }
      have frame := SameWork.run channel store rest i .apply
      obtain ⟨queue, sent, failures⟩ := ih bound (rest.run channel store i .apply).2 frame.queue
        (Nat.le_of_succ_le_succ enough)
      rw [drainUpTo_cons channel store bound queued]
      refine ⟨queue, ?_, failures.trans frame.failures⟩
      rw [← List.singleton_append, ← List.append_assoc]
      exact sent.trans (congrArg (· ++ batches) (run_sent_of_known channel store rest head))

end LeaseRoutes.Exporter
