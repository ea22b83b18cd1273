import LogThrottle.System.Lookup

/-! Logging calls, through a logger or through a throttle that a caller kept. -/
namespace LogThrottle.System

/-- Enrolment, decision, tally, sink and external counter, in this order. -/
def logThrough (t : ThrottleId) (severity : Severity) (args : List Argument) : Call Unit := do
  join t
  let throttle := (← get).throttle t
  let logger := (← get).logger throttle.logger
  match ← attempt t with
  | .allow =>
    modify (changeTally throttle.logger Tally.countAllowed)
    deliverTemplate (.event t) logger.sink severity throttle.topic.template args
  | .suppress => modify (changeTally throttle.logger Tally.countSuppressed)
  countCall logger.counter severity.counterName

/-- At the topic's own severity. -/
def emit (t : ThrottleId) (args : List Argument) : Call Unit := do
  logThrough t ((← get).throttle t).topic.voice args

def log (l : LoggerId) (severity : Severity) (template : String) (args : List Argument) :
    Call Unit := do
  logThrough (← lookup l { template }) severity args

end LogThrottle.System
