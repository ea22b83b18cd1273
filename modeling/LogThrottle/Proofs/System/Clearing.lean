import LogThrottle.Proofs.System.Frames
import LogThrottle.System.Action

/-! Resets clear limiters before anything can fail, so faults do not show in the throttles. -/
namespace LogThrottle.System
open Call

def SameThrottles (s s' : System) : Prop := s'.throttles = s.throttles

private theorem resetting_throttles : Resetting (fun _ => True) SameThrottles where
  refl _ := rfl
  trans h h' := h'.trans h
  wrote _ wrote := wrote.throttles
  asked _ _ _ := rfl
  ofReset _ := trivial
  countDigest _ _ := rfl

theorem throttles_resetOrReport (t : ThrottleId) (s : System) :
    ((resetOrReport t).exec s).2.throttles = (setLimiter t .cleared s).throttles :=
  resetting_throttles.cleared_resetOrReport t s

/-- A pass clears the limiters of its throttles, whatever fails, and no others. -/
theorem limiter_resetAll (ts : List ThrottleId) (s : System) (u : ThrottleId) :
    (((resetAll ts).exec s).2.throttle u).limiter =
      if u ∈ ts ∧ u < s.throttles.size then .cleared else (s.throttle u).limiter := by
  induction ts generalizing s with
  | nil => rw [if_neg fun h => List.not_mem_nil h.1]; rfl
  | cons t ts ih =>
    obtain ⟨s', he⟩ := resetOrReport_ok t s
    have first := throttles_resetOrReport t s
    rw [he] at first
    rw [resetAll, exec_bind, he]
    rw [ih s', throttle, first, ← throttle, throttle_setLimiter, size_throttles_setLimiter]
    by_cases hu : u < s.throttles.size
    · by_cases ht : t = u
      · simp [ht, hu]
      · have : ¬u = t := fun e => ht e.symm
        simp [ht, this, hu]
    · simp [hu]

theorem limiter_flush (r : RosterId) (s : System) (u : ThrottleId) :
    ((s.after (.flush r)).throttle u).limiter =
      if u ∈ (s.roster r).members ∧ u < s.throttles.size then .cleared else (s.throttle u).limiter := by
  have flushed : s.after (.flush r) = ((flush r).exec s).2 := rfl
  rw [flushed, flush_exec, limiter_resetAll]
  rfl

theorem limiter_fire (r : RosterId) (period : Duration) (s : System) (u : ThrottleId) :
    ((s.after (.fire r period)).throttle u).limiter =
      if u ∈ (s.roster r).due period ∧ u < s.throttles.size then .cleared
      else (s.throttle u).limiter := by
  have fired : s.after (.fire r period) = ((resetAll ((s.roster r).due period)).exec s).2 := rfl
  rw [fired, limiter_resetAll]

end LogThrottle.System
