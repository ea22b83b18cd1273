import LogThrottle.Drill.Rig

/-! Floods: many callers log one template many times each, and then the roster is flushed. What is
reported does not depend on the order of the calls, so they are made one after the other. -/
namespace LogThrottle

structure Flood where
  limit : UInt32
  callers : Nat
  callsEach : Nat
  template : String
  severity : Severity
  /-- The stopwatch while callers log, and when the roster is flushed. -/
  reading : Duration
  flushReading : Duration

structure Flood.Outcome where
  events : UInt64
  count : UInt64
  reachesLimit : Bool
  linesAreAllowed : Bool
  counted : Nat
  topics : Nat
  /-- Messages that begin as digests do, in order of delivery. -/
  digests : List String
  countAfter : UInt64

namespace Flood

/-- Each call shows the numbers of its caller and of the call. -/
def calls (f : Flood) : List (List Argument) :=
  (List.range f.callers).flatMap fun i =>
    (List.range f.callsEach).map fun j => [.integer (Int.ofNat i), .integer (Int.ofNat j)]

def logAll (f : Flood) (l : LoggerId) : List (List Argument) → Call Unit
  | [] => return
  | args :: rest => do
    (Action.log l f.severity f.template args).perform
    f.logAll l rest

def run (f : Flood) : Call (Except PlanError Outcome) := do
  let rig ← Rig.assemble .filled f.reading
  match ← (Action.build (rig.plan f.limit Rig.hour 1000)).perform with
  | .error e => return .error e
  | .ok l =>
    f.logAll l f.calls
    let t ← (Action.lookup l { template := f.template }).perform
    let before ← get
    let logger := before.logger l
    let written := (rig.lines before).length
    (Action.move rig.stopwatch (.set f.flushReading)).perform
    (Action.flush rig.roster).perform
    let after ← get
    return .ok {
      events := logger.tally.total
      count := (before.throttle t).limiter.count
      reachesLimit := min logger.tally.total.toNat f.limit.toNat ≤ written
      linesAreAllowed := written = logger.tally.allowed.toNat
      counted := rig.count before f.severity
      topics := logger.catalogue.size
      digests := Line.digests (rig.lines after)
      countAfter := (after.throttle t).limiter.count }

end Flood
end LogThrottle
