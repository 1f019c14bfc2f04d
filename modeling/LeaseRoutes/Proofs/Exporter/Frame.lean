import LeaseRoutes.Exporter.State

namespace LeaseRoutes.Exporter

open Switch

variable {σ : Type} (channel : Channel σ) (store : LeaseStore)

/-- The second exporter differs from the first at most in what the switch was told and what was
counted. -/
structure SameWork (x y : Exporter σ) : Prop where
  queue : y.queue = x.queue
  accepts : y.accepts = x.accepts
  offered : y.offered = x.offered
  surveys : y.surveys = x.surveys
  failures : y.failures = x.failures

namespace SameWork

theorem refl (x : Exporter σ) : SameWork x x := ⟨rfl, rfl, rfl, rfl, rfl⟩

theorem trans {x y z : Exporter σ} (h : SameWork x y) (k : SameWork y z) : SameWork x z :=
  ⟨k.queue.trans h.queue, k.accepts.trans h.accepts, k.offered.trans h.offered,
    k.surveys.trans h.surveys, k.failures.trans h.failures⟩

theorem step (x : Exporter σ) (s : Stage) : SameWork x (x.step channel s).2 := by
  cases s <;> exact ⟨rfl, rfl, rfl, rfl, rfl⟩

theorem settle (x : Exporter σ) (s : Stage) : SameWork x (x.settle channel s).2 := by
  fun_induction Exporter.settle channel x s with
  | case1 => exact .refl _
  | case2 x s _ _ ih => exact (step channel x s).trans ih

theorem run (x : Exporter σ) (i : Intent) (d : Direction) :
    SameWork x (x.run channel store i d).2 := by
  have planned : SameWork x (x.plan store i d).2 := ⟨rfl, rfl, rfl, rfl, rfl⟩
  have settled := planned.trans (settle channel (x.plan store i d).2 (x.plan store i d).1)
  exact settled.trans ⟨rfl, rfl, rfl, rfl, rfl⟩

end SameWork

/-- Failures and offers are never taken back, and what the queue accepts is settled. -/
structure Grows (x y : Exporter σ) : Prop where
  failures : x.failures ≤ y.failures
  offered : x.offered ≤ y.offered
  accepts : y.accepts = x.accepts

theorem SameWork.grows {x y : Exporter σ} (h : SameWork x y) : Grows x y :=
  ⟨Nat.le_of_eq h.failures.symm, Nat.le_of_eq h.offered.symm, h.accepts⟩

theorem Grows.trans {x y z : Exporter σ} (h : Grows x y) (k : Grows y z) : Grows x z :=
  ⟨Nat.le_trans h.failures k.failures, Nat.le_trans h.offered k.offered,
    k.accepts.trans h.accepts⟩

/-! ## Stages -/

theorem settle_terminal (x : Exporter σ) (s : Stage) : (x.settle channel s).1.terminal = true := by
  fun_induction settle channel x s with
  | case1 _ _ h => exact h
  | case2 _ _ _ _ ih => exact ih

theorem settle_of_terminal (x : Exporter σ) {s : Stage} (h : s.terminal = true) :
    x.settle channel s = (s, x) := by
  rw [settle, dif_pos h]

theorem settle_step (x : Exporter σ) (s : Stage) :
    x.settle channel s = (x.step channel s).2.settle channel (x.step channel s).1 := by
  cases h : s.terminal with
  | false => rw [settle, dif_neg (by simp [h])]
  | true =>
    cases s with
    | lookup | change => simp [Stage.terminal] at h
    | done | failed => rfl

end LeaseRoutes.Exporter
