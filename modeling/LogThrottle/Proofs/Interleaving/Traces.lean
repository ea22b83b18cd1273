import Mathlib

/-! Runs of callers as functions of time. What a step keeps holds at the end of every run, and what has come to hold
in the course of one has a last time before which it did not. -/
namespace LogThrottle.Interleaving

/-- The first `n` steps of a run. -/
structure Trace {σ : Type} (step : σ → σ → Prop) (start : σ) (x : Nat → σ) (n : Nat) : Prop where
  start : x 0 = start
  step : ∀ i, i < n → step (x i) (x (i + 1))

namespace Trace
variable {σ : Type} {step : σ → σ → Prop} {start : σ} {x : Nat → σ} {n : Nat}

theorem take (h : Trace step start x n) {m : Nat} (le : m ≤ n) : Trace step start x m :=
  ⟨h.start, fun i lt => h.step i (lt.trans_le le)⟩

theorem mono {step' : σ → σ → Prop} (h : Trace step start x n)
    (more : ∀ i < n, step (x i) (x (i + 1)) → step' (x i) (x (i + 1))) : Trace step' start x n :=
  ⟨h.start, fun i lt => more i lt (h.step i lt)⟩

theorem keeps {P : σ → Prop} (h : Trace step start x n) (begun : P start)
    (kept : ∀ i < n, P (x i) → P (x (i + 1))) : P (x n) := by
  induction n with
  | zero => exact h.start ▸ begun
  | succ n ih =>
    exact kept n n.lt_succ_self (ih (h.take n.le_succ) fun i lt => kept i (Nat.lt_succ_of_lt lt))

/-- What no step undoes stays. -/
theorem stays {P : σ → Prop} (h : Trace step start x n) (kept : ∀ a b, step a b → P a → P b) {i j : Nat} (le : i ≤ j)
    (within : j ≤ n) (now : P (x i)) : P (x j) := by
  induction j, le using Nat.le_induction with
  | base => exact now
  | succ j le ih => exact kept _ _ (h.step j within) (ih (Nat.le_of_succ_le within))

end Trace

/-- What holds now and did not hold then has held since some step. -/
theorem exists_since {P : Nat → Prop} {i j : Nat} (le : i ≤ j) (before : ¬P i) (now : P j) :
    ∃ k, i ≤ k ∧ k < j ∧ ¬P k ∧ ∀ h, k < h → h ≤ j → P h := by
  induction j, le using Nat.le_induction with
  | base => exact absurd now before
  | succ j le ih =>
    by_cases earlier : P j
    · obtain ⟨k, after, lt, turn, since⟩ := ih earlier
      refine ⟨k, after, Nat.lt_succ_of_lt lt, turn, fun h later within => ?_⟩
      rcases Nat.le_succ_iff.mp within with sooner | rfl
      · exact since h later sooner
      · exact now
    · refine ⟨j, le, j.lt_succ_self, earlier, fun h later within => ?_⟩
      exact Nat.le_antisymm within later ▸ now

end LogThrottle.Interleaving
