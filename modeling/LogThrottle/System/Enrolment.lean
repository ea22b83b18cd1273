import LogThrottle.System.Limiting

/-! Membership in rosters. A flush begins an epoch and resets everybody who was enrolled; stamps of
an earlier epoch tell a throttle in use to enrol again. -/
namespace LogThrottle.System

/-- Enrols a throttle under its period and stamps it with the roster's epoch. -/
def enrol (r : RosterId) (t : ThrottleId) : Call Unit := do
  let period := ((← get).logger ((← get).throttle t).logger).quota.period
  let roster := (← get).roster r
  if roster.schedules period then modify (write (.notice .scheduling))
  modify (changeRoster r (·.enrol period t))
  modify (setStamp t roster.epoch)

/-- Makes sure that a throttle about to be used is enrolled with its own roster, if that is alive.
-/
def join (t : ThrottleId) : Call Unit := do
  let throttle := (← get).throttle t
  let r := ((← get).logger throttle.logger).roster
  if throttle.stamp ≠ ((← get).roster r).epoch then
    if (← get).alive r then enrol r t

def flush (r : RosterId) : Call Unit := do
  let members := ((← get).roster r).members
  modify (changeRoster r Roster.drain)
  modify (write (.notice .flushing))
  resetAll members

/-- Closes a roster once: flushes it and cancels its reset jobs. -/
def shutdown (r : RosterId) : Call Unit := do
  unless ((← get).roster r).closed do
    modify (changeRoster r Roster.close)
    flush r
    modify (changeRoster r Roster.cancelJobs)

/-- Runs the reset job of a period once, if it is scheduled. Members stay enrolled. -/
def fire (r : RosterId) (period : Duration) : Call Unit := do
  resetAll (((← get).roster r).due period)

end LogThrottle.System
