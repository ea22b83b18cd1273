import LogThrottle.System.Delivery

/-! Attempts and resets of throttles. A reset clears the limiter before anything can fail, and a
failed reset is reported without touching the others of its pass. -/
namespace LogThrottle.System

def attempt (t : ThrottleId) : Call Decision := do
  let throttle := (← get).throttle t
  let logger := (← get).logger throttle.logger
  let before := throttle.limiter
  modify (setLimiter t before.bump)
  match before.bump.course logger.quota.limit before.ordinal with
  | .pass => return .allow
  | .hold => return .suppress
  | .mark =>
    unless Limiter.below logger.quota.limit before.bump.count do
      let now ← readClock logger.stopwatch
      modify (setLimiter t (before.bump.setMark now))
    return .allow

/-- Ends the period of a throttle. The digest is counted only after it is delivered. -/
def reset (t : ThrottleId) : Call (Option Digest) := do
  let throttle := (← get).throttle t
  let logger := (← get).logger throttle.logger
  modify (setLimiter t .cleared)
  let suppressed := throttle.limiter.withheld logger.quota.limit
  if suppressed = 0 then return none
  let now ← readClock logger.stopwatch
  let digest : Digest := ⟨throttle.topic, suppressed, throttle.limiter.sinceMark now⟩
  deliver (.digest t digest) logger.sink ⟨throttle.topic.voice, digest.text⟩
  modify (changeTally throttle.logger Tally.countDigest)
  return some digest

def failureOpening : String := "failed to reset rate-limited log '"

def failureMessage (topic : Topic) (f : Fault) : String :=
  failureOpening ++ topic.template ++ "': " ++ f.reason

/-- A sink that fails on the report too leaves only a diagnostic event. -/
def reportFailure (t : ThrottleId) (f : Fault) : Call Unit := do
  let throttle := (← get).throttle t
  let logger := (← get).logger throttle.logger
  tryCatch (deliver (.failure t) logger.sink ⟨.warn, failureMessage throttle.topic f⟩)
    fun _ => modify (write (.notice .resetFailed))

def resetOrReport (t : ThrottleId) : Call Unit :=
  tryCatch (discard (reset t)) (reportFailure t)

def resetAll : List ThrottleId → Call Unit
  | [] => return
  | t :: ts => do
    resetOrReport t
    resetAll ts

end LogThrottle.System
