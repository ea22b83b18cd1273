import LogThrottle.Proofs.System.Outcomes

/-! A limit that was reached bears its mark, unless a stopwatch failed when it should have been set. -/
namespace LogThrottle.System
open Call

/-- The limit is not reached without a mark, if the stopwatch can always be read. -/
def Marked (s : System) (t : ThrottleId) : Prop :=
  s.Fine (s.logger (s.throttle t).logger).stopwatch →
    (s.limit t).toNat ≤ (s.throttle t).limiter.count.toNat → (s.throttle t).limiter.isLimited = true

variable {s s' : System} {t : ThrottleId}

/-- A limit of none is none. -/
theorem marked_of_cleared (cleared : (s.throttle t).limiter = .cleared) : s.Marked t := by
  intro _ reached
  rw [cleared] at reached
  exact absurd reached (Nat.not_le.mpr (limit_pos s t))

namespace Marked

theorem carries {es : List Entry} (h : s.Marked t) (sound : Sound s) (carries : Carries es s s')
    (same : (s'.throttle t).limiter = (s.throttle t).limiter) : s'.Marked t := by
  by_cases made : t < s.throttles.size
  · rw [Marked, same, carries.limit_eq sound made, carries.stopwatch_eq sound made]
    exact fun fine => h (carries.fine _ fine)
  · rw [throttle_of_size_le (Nat.not_lt.mp made)] at same
    exact marked_of_cleared same

theorem wanes {D : ThrottleId → Prop} (h : s.Marked t) (sound : Sound s) (wanes : Wanes D s s') :
    s'.Marked t := by
  obtain ⟨es, _, clears⟩ := wanes
  obtain same | ⟨cleared, _⟩ := clears.limiter t
  · exact h.carries sound clears.toCarries same
  · exact marked_of_cleared cleared

theorem counted {u : ThrottleId} {answer : Option Decision} {es : List Entry} (h : s.Marked t)
    (sound : Sound s) (made : u < s.throttles.size) (counted : Counted u answer es s s') :
    s'.Marked t := by
  by_cases own : t = u
  · subst own
    rw [Marked, counted.limit_eq sound made, counted.stopwatch_eq sound made]
    exact fun fine => counted.tried.isLimited fun none => counted.unread none (counted.fine _ fine)
  · exact h.carries sound counted.toCarries (counted.others t own)

theorem after {a : Action} (h : s.Marked t) (sound : Sound s) (ready : a.Ready s) :
    (s.after a).Marked t := by
  cases after_outcome sound ready with
  | quiet _ wanes => exact h.wanes sound wanes
  | event sound₁ wanes made counted _ => exact (h.wanes sound wanes).counted sound₁ made counted

end Marked

theorem Reachable.marked (h : Reachable s) (t : ThrottleId) : s.Marked t := by
  induction h with
  | empty => exact marked_of_cleared rfl
  | after a reached ready ih => exact ih.after reached.sound ready

end LogThrottle.System
