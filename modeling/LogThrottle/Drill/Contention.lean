import LogThrottle.Drill.Rig

/-! Contention: many callers look up one new topic. Whoever comes first, all get the same throttle.
-/
namespace LogThrottle

structure Contention where
  callers : Nat
  topic : Topic

structure Contention.Outcome where
  oneThrottle : Bool
  /-- The topic of the throttle that was found, if anybody looked. -/
  topic : Option Topic
  topics : Nat
  members : Nat

namespace Contention

def lookups (c : Contention) (l : LoggerId) : Nat → Call (List ThrottleId)
  | 0 => return []
  | n + 1 => do
    let t ← (Action.lookup l c.topic).perform
    return t :: (← c.lookups l n)

def run (c : Contention) : Call (Except PlanError Outcome) := do
  let rig ← Rig.assemble .filled .zero
  match ← (Action.build (rig.plan 1 Rig.hour 1000)).perform with
  | .error e => return .error e
  | .ok l =>
    let found ← c.lookups l c.callers
    let s ← get
    return .ok {
      oneThrottle := found.all fun t => found.head? = some t
      topic := found.head?.map fun t => (s.throttle t).topic
      topics := (s.logger l).catalogue.size
      members := ((s.roster rig.roster).membersAt Rig.hour).length }

end Contention
end LogThrottle
