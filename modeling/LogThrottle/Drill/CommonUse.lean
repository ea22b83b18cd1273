import LogThrottle.Drill.Rig

/-! The common roster: a logger on a roster that is never let go logs some calls, and then a guard
on the roster is released. -/
namespace LogThrottle

structure CommonUse where
  limit : UInt32
  period : Duration
  times : Nat
  severity : Severity
  template : String
  args : List Argument
  reading : Duration

structure CommonUse.Outcome where
  onCommonRoster : Bool
  membersBefore : Nat
  membersAfter : Nat
  /-- How far the epoch moved. -/
  epochs : UInt64
  counted : Nat
  /-- In order of delivery: one topic is in use, so the roster's flush writes at most one digest. -/
  lines : List Line

namespace CommonUse

def logAll (u : CommonUse) (l : LoggerId) : Nat → Call Unit
  | 0 => return
  | n + 1 => do
    (Action.log l u.severity u.template u.args).perform
    u.logAll l n

def run (u : CommonUse) : Call (Except PlanError Outcome) := do
  let rig ← Rig.assemble .filled u.reading
  match ← (Action.build (rig.plan u.limit u.period 1000)).perform with
  | .error e => return .error e
  | .ok l =>
    let start ← get
    (Action.guard rig.roster).perform
    u.logAll l u.times
    let before ← get
    (Action.release ⟨.guard, rig.roster⟩).perform
    let after ← get
    return .ok {
      onCommonRoster := (after.logger l).roster = rig.roster
      membersBefore := ((before.roster rig.roster).membersAt u.period).length
      membersAfter := ((after.roster rig.roster).membersAt u.period).length
      epochs := (after.roster rig.roster).epoch - (start.roster rig.roster).epoch
      counted := rig.count after u.severity
      lines := rig.lines after }

end CommonUse
end LogThrottle
