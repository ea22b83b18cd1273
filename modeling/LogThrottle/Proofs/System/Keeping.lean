import Mathlib
import LogThrottle.System.Call

/-! What a computation keeps, whatever it reads and wherever a fault ends it. -/
namespace LogThrottle.Call
variable {α β : Type} {R : System → System → Prop}

/-- The system that a computation leaves is related to the one it found, also after a fault. -/
def Keeps (R : System → System → Prop) (c : Call α) : Prop := ∀ s, R s (c.exec s).2

theorem keeps_modify {f : System → System} (h : ∀ s, R s (f s)) : Keeps R (modify f) := h

theorem keeps_map (f : α → β) {c : Call α} (h : Keeps R c) : Keeps R (f <$> c) := by
  intro s
  rw [exec_map]
  exact h s

/-- What holds across nothing, and across two computations if it holds across each. -/
structure Chain (R : System → System → Prop) : Prop where
  refl : ∀ s, R s s
  trans : ∀ {s s' s''}, R s s' → R s' s'' → R s s''

namespace Chain
variable (h : Chain R)
include h

theorem pure (a : α) : Keeps R (Pure.pure a) := h.refl

theorem get : Keeps R MonadState.get := h.refl

theorem ofExcept (e : Except Fault α) : Keeps R (ofExcept e) := by
  intro s
  rw [exec_ofExcept]
  exact h.refl s

theorem bind {c : Call α} {k : α → Call β} (hc : Keeps R c) (hk : ∀ a, Keeps R (k a)) :
    Keeps R (c >>= k) := by
  intro s
  rw [exec_bind]
  have first := hc s
  revert first
  rcases c.exec s with ⟨_ | a, s'⟩
  · exact id
  · exact fun first => h.trans first (hk a s')

theorem tryCatch {c : Call α} {handle : Fault → Call α} (hc : Keeps R c)
    (hh : ∀ f, Keeps R (handle f)) : Keeps R (tryCatch c handle) := by
  intro s
  rw [exec_tryCatch]
  have first := hc s
  revert first
  rcases c.exec s with ⟨f | _, s'⟩
  · exact fun first => h.trans first (hh f s')
  · exact id

end Chain
end LogThrottle.Call
