import LogThrottle.Drill.Rig

/-! Fitting: a logger is built on a roster of its own and looked at before it is used. -/
namespace LogThrottle

structure Fitting where
  quota : Quota
  topics : Nat
  events : UInt64
  ownRoster : Bool
  periods : Nat

def Fitting.run (limit : UInt32) (period : Duration) (capacity : Nat) :
    Call (Except PlanError Fitting) := do
  let rig ← Rig.assemble .filled .zero
  match ← (Action.build (rig.plan limit period capacity)).perform with
  | .error e => return .error e
  | .ok l =>
    let s ← get
    let logger := s.logger l
    return .ok {
      quota := logger.quota
      topics := logger.catalogue.size
      events := logger.tally.total
      ownRoster := logger.roster = rig.roster
      periods := (s.roster rig.roster).slots.size }

end LogThrottle
