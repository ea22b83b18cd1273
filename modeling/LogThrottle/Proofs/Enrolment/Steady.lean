import LogThrottle.Proofs.System.Frames

/-! What leaves membership alone. Attempts, resets and deliveries do, wherever a fault ends them. -/
namespace LogThrottle.System
open Call

/-- Rosters, holders and all that ties throttles to them stand as they stood; limiters, tallies and
the outside may differ. -/
structure Steady (s s' : System) : Prop where
  rosters : s'.rosters = s.rosters
  holders : s'.holders = s.holders
  flushes : s'.flushes = s.flushes
  throttles : s'.throttles.size = s.throttles.size
  throttle : ∀ t, { s'.throttle t with limiter := {} } = { s.throttle t with limiter := {} }
  loggers : s'.loggers.size = s.loggers.size
  logger : ∀ l, { s'.logger l with tally := {} } = { s.logger l with tally := {} }

namespace Steady
variable {s s' s'' : System}

theorem refl (s : System) : Steady s s := ⟨rfl, rfl, rfl, rfl, fun _ => rfl, rfl, fun _ => rfl⟩

theorem trans (h : Steady s s') (h' : Steady s' s'') : Steady s s'' where
  rosters := h'.rosters.trans h.rosters
  holders := h'.holders.trans h.holders
  flushes := h'.flushes.trans h.flushes
  throttles := h'.throttles.trans h.throttles
  throttle t := (h'.throttle t).trans (h.throttle t)
  loggers := h'.loggers.trans h.loggers
  logger l := (h'.logger l).trans (h.logger l)

theorem stamp_eq (h : Steady s s') (t : ThrottleId) : (s'.throttle t).stamp = (s.throttle t).stamp :=
  (congrArg Throttle.stamp (h.throttle t) :)

theorem logger_eq (h : Steady s s') (t : ThrottleId) :
    (s'.throttle t).logger = (s.throttle t).logger :=
  (congrArg Throttle.logger (h.throttle t) :)

theorem topic_eq (h : Steady s s') (t : ThrottleId) : (s'.throttle t).topic = (s.throttle t).topic :=
  (congrArg Throttle.topic (h.throttle t) :)

theorem roster_eq (h : Steady s s') (r : RosterId) : s'.roster r = s.roster r := by
  rw [roster, h.rosters, roster]

theorem alive_eq (h : Steady s s') (r : RosterId) : s'.alive r = s.alive r := by
  rw [alive, h.holders, alive]

theorem logger_roster (h : Steady s s') (l : LoggerId) : (s'.logger l).roster = (s.logger l).roster :=
  (congrArg Logger.roster (h.logger l) :)

theorem logger_quota (h : Steady s s') (l : LoggerId) : (s'.logger l).quota = (s.logger l).quota :=
  (congrArg Logger.quota (h.logger l) :)

theorem logger_catalogue (h : Steady s s') (l : LoggerId) :
    (s'.logger l).catalogue = (s.logger l).catalogue :=
  (congrArg Logger.catalogue (h.logger l) :)

theorem home_eq (h : Steady s s') (t : ThrottleId) : s'.home t = s.home t := by
  rw [home, h.logger_eq, h.logger_roster, home]

theorem period_eq (h : Steady s s') (t : ThrottleId) : s'.period t = s.period t := by
  rw [period, h.logger_eq, h.logger_quota, period]

theorem enrolled_iff (h : Steady s s') (t : ThrottleId) : s'.Enrolled t ↔ s.Enrolled t := by
  rw [Enrolled, h.home_eq, h.period_eq, h.roster_eq, Enrolled]

end Steady

theorem Wrote.steady {es : List Entry} {s s' : System} (h : Wrote es s s')
    (quiet : .notice .flushing ∉ es) : Steady s s' where
  rosters := h.rosters
  holders := h.holders
  flushes := by
    rw [flushes, h.journal, List.count_append, List.count_eq_zero_of_not_mem quiet, flushes,
      Nat.add_zero]
  throttles := by rw [h.throttles]
  throttle t := by rw [System.throttle, h.throttles, System.throttle]
  loggers := by rw [h.loggers]
  logger l := by rw [System.logger, h.loggers, System.logger]

theorem steady_setLimiter (s : System) (t : ThrottleId) (x : Limiter) :
    Steady s (setLimiter t x s) := by
  refine { Steady.refl s with throttles := size_throttles_setLimiter .., throttle := fun i => ?_ }
  rw [throttle_setLimiter]
  split <;> rfl

theorem steady_changeTally (s : System) (l : LoggerId) (f : Tally → Tally) :
    Steady s (changeTally l f s) := by
  refine { Steady.refl s with loggers := size_loggers_changeTally .., logger := fun i => ?_ }
  rw [logger_changeTally]
  split <;> rfl

/-- All entries but the notice of a flush may be written. -/
theorem resetting_steady : Resetting (· ≠ .notice .flushing) Steady where
  refl := .refl
  trans h h' := h.trans h'
  wrote quiet wrote := wrote.steady fun member => quiet _ member rfl
  asked s _ _ := { Steady.refl s with }
  ofReset h := by cases h <;> simp
  countDigest s l := steady_changeTally s l _

theorem judging_steady (t : ThrottleId) : Judging t (· ≠ .notice .flushing) Steady where
  toFrame := resetting_steady.toFrame
  touch s x := steady_setLimiter s t x
  event _ _ := by simp
  countAllowed s l := steady_changeTally s l _
  countSuppressed s l := steady_changeTally s l _

theorem steady_attempt (t : ThrottleId) : Keeps Steady (attempt t) :=
  resetting_steady.attempt fun s x => steady_setLimiter s t x

theorem steady_resetOrReport (t : ThrottleId) : Keeps Steady (resetOrReport t) :=
  resetting_steady.resetOrReport fun s => steady_setLimiter s t _

theorem steady_resetAll (ts : List ThrottleId) : Keeps Steady (resetAll ts) :=
  resetting_steady.resetAll fun t _ s => steady_setLimiter s t _

/-- All that follows the joining leaves membership alone. -/
theorem steady_logThrough {t : ThrottleId} {s s' : System} (severity : Severity) (args : List Argument)
    (h : (join t).exec s = (.ok (), s')) : Steady s' ((logThrough t severity args).exec s).2 :=
  (judging_steady t).joined_logThrough severity args h

end LogThrottle.System
