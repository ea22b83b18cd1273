import Mathlib
import LogThrottle.Interleaving.Attempt

/-! One caller moves and the others stay where they are: what then holds of where they stand. -/
namespace LogThrottle.Interleaving
variable {φ : Type} {at_ : Caller → φ} {c d : Caller} {p q : φ}

/-- What holds for every caller once one of them has moved. -/
theorem forall_moved {P : Caller → φ → Prop} (own : P c p) (others : ∀ d, d ≠ c → P d (at_ d)) (d : Caller) :
    P d (if d = c then p else at_ d) := by
  by_cases same : d = c
  · rw [if_pos same]
    exact same ▸ own
  · rw [if_neg same]
    exact others d same

theorem moved_eq (h : (if d = c then p else at_ d) = q) : d = c ∧ p = q ∨ at_ d = q := by
  by_cases same : d = c
  · exact .inl ⟨same, (if_pos same).symm.trans h⟩
  · exact .inr ((if_neg same).symm.trans h)

/-- Whoever moves from elsewhere leaves this caller where it is. -/
theorem stays_of_ne (here : at_ d = q) (away : at_ c ≠ q) : (if d = c then p else at_ d) = q := by
  refine (if_neg ?_).trans here
  rintro rfl
  exact away here

/-- What is read off where callers stand changes for the one that moves. -/
theorem read_moved {β : Type} (f : φ → β) (at_ : Caller → φ) (c : Caller) (p : φ) :
    (fun d => f (if d = c then p else at_ d)) = Function.update (fun d => f (at_ d)) c (f p) := by
  funext d
  rw [Function.update_apply]
  exact apply_ite f ..

/-- A caller that moves to where the same is read changes nothing. -/
theorem read_moved_of_eq {β : Type} {f : φ → β} (here : at_ c = p) (same : f q = f p) :
    (fun d => f (if d = c then q else at_ d)) = fun d => f (at_ d) := by
  rw [read_moved, same, ← here]
  exact Function.update_eq_self c fun d => f (at_ d)

end LogThrottle.Interleaving
