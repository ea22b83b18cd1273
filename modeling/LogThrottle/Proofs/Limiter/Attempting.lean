import Mathlib
import LogThrottle.Limiter

/-! What one attempt makes of a limiter, whatever its count and whether or not the stopwatch could be
read, and how many events can have passed since the last reset. -/
namespace LogThrottle.Limiter

/-- An attempt, its answer, and the limiter it leaves. There is no answer if the stopwatch fails. -/
inductive Attempted (limit : UInt32) (x : Limiter) : Option Decision → Limiter → Prop where
  | pass (early : below limit x.ordinal = true) : Attempted limit x (some .allow) x.bump
  | hold (late : below limit x.ordinal = false) (limited : x.isLimited = true) :
      Attempted limit x (some .suppress) x.bump
  /-- The count has wrapped and is below the limit again. -/
  | wrap (late : below limit x.ordinal = false) (unlimited : x.isLimited = false)
      (again : below limit x.bump.count = true) : Attempted limit x (some .allow) x.bump
  | mark (unlimited : x.isLimited = false) (reached : below limit x.bump.count = false) {now : UInt64}
      (read : now ≠ 0) : Attempted limit x (some .allow) (x.bump.setMark now)
  | unread (unlimited : x.isLimited = false) : Attempted limit x none x.bump

/-- `n` events can have passed since the last reset: up to the limit once it is reached, and fewer, each
of them counted, before. -/
structure Within (limit : UInt32) (x : Limiter) (n : Nat) : Prop where
  unlimited : x.isLimited = false → n < limit.toNat ∧ n ≤ x.count.toNat
  limited : x.isLimited = true → n ≤ limit.toNat ∧ limit.toNat ≤ x.count.toNat

variable {limit : UInt32} {x y : Limiter} {answer : Option Decision} {n : Nat}

theorem count_bump_le (x : Limiter) : x.bump.count.toNat ≤ x.count.toNat + 1 := by
  rw [bump, UInt64.toNat_add]
  exact Nat.mod_le ..

theorem count_bump_of_lt (few : x.count.toNat + 1 < 2 ^ 64) : x.bump.count.toNat = x.count.toNat + 1 := by
  rw [bump, UInt64.toNat_add]
  exact Nat.mod_eq_of_lt few

theorem lt_limit_of_early (early : below limit x.ordinal = true) : x.count.toNat + 1 < limit.toNat := by
  have number := below_iff.mp early
  rw [ordinal_toNat] at number
  have := limit.toNat_lt
  omega

namespace Attempted

theorem count_le (h : Attempted limit x answer y) : y.count.toNat ≤ x.count.toNat + 1 := by
  cases h with
  | mark unlimited reached read =>
    rw [count_setMark]
    exact x.count_bump_le
  | _ => exact x.count_bump_le

/-- An attempt that is answered leaves no limit reached without a mark. -/
theorem isLimited (h : Attempted limit x answer y) (answered : answer ≠ none)
    (past : limit.toNat ≤ y.count.toNat) : y.isLimited = true := by
  cases h with
  | pass early =>
    exact absurd (Nat.le_trans past x.count_bump_le) (Nat.not_le.mpr (lt_limit_of_early early))
  | hold late limited => exact limited
  | wrap late unlimited again => exact absurd past (Nat.not_le.mpr (below_iff.mp again))
  | mark unlimited reached read => exact isLimited_setMark read _
  | unread => exact absurd rfl answered

end Attempted

namespace Within

theorem le (h : Within limit x n) : n ≤ limit.toNat := by
  cases marked : x.isLimited with
  | false => exact Nat.le_of_lt (h.unlimited marked).1
  | true => exact (h.limited marked).1

theorem cleared (positive : 0 < limit.toNat) : Within limit .cleared 0 :=
  ⟨fun _ => ⟨positive, Nat.zero_le _⟩, fun marked => absurd marked Bool.false_ne_true⟩

theorem mono {m : Nat} (h : Within limit x n) (le : m ≤ n) : Within limit x m where
  unlimited marked := ⟨Nat.lt_of_le_of_lt le (h.unlimited marked).1, Nat.le_trans le (h.unlimited marked).2⟩
  limited marked := ⟨Nat.le_trans le (h.limited marked).1, (h.limited marked).2⟩

/-- An attempt lets at most one more event pass. -/
theorem attempted (h : Within limit x n) (tried : Attempted limit x answer y)
    (few : x.count.toNat + 1 < 2 ^ 64) :
    Within limit y (n + if answer = some .allow then 1 else 0) := by
  have count := count_bump_of_lt few
  cases tried with
  | pass early =>
    have lt := lt_limit_of_early early
    refine ⟨fun unlimited => ?_, fun limited => ?_⟩
    · have := (h.unlimited unlimited).2
      rw [if_pos rfl, count]
      omega
    · have := (h.limited limited).2
      omega
  | hold late limited =>
    have := h.limited limited
    refine ⟨fun unlimited => absurd (unlimited.symm.trans limited) Bool.false_ne_true, fun _ => ?_⟩
    rw [if_neg (by decide), count]
    omega
  | wrap late unlimited again =>
    have number : x.ordinal.toNat = x.bump.count.toNat := by
      rw [ordinal_toNat, count]
      omega
    rw [below, UInt64.toNat_inj.mp number, ← below, again] at late
    cases late
  | mark unlimited reached read =>
    have past : limit.toNat ≤ x.count.toNat + 1 := by
      rw [← count, ← Nat.not_lt, ← below_iff, reached]
      exact Bool.false_ne_true
    have := h.unlimited unlimited
    have marked := isLimited_setMark read x.bump
    refine ⟨fun unmarked => absurd (unmarked.symm.trans marked) Bool.false_ne_true, fun _ => ?_⟩
    rw [if_pos rfl, count_setMark, count]
    omega
  | unread unlimited =>
    have := h.unlimited unlimited
    refine ⟨fun _ => ?_, fun marked => absurd (unlimited.symm.trans marked) Bool.false_ne_true⟩
    rw [if_neg (by decide), count]
    omega

end Within
end LogThrottle.Limiter
