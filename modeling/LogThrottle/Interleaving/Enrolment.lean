import LogThrottle.Interleaving.Attempt
import LogThrottle.Roster
import LogThrottle.Throttle

/-! Logging calls and flushes on one roster that stays alive, by any number of callers. A logging
call looks at the epoch, compares its throttle's stamp, enrols if they differ, and only then counts;
a flush begins an epoch and takes the members in one step and then resets them one by one. -/
namespace LogThrottle.Interleaving.Enrolment

inductive Phase where
  | idle
  /-- In a logging call on a throttle; the stamp is compared with this epoch next. -/
  | comparing (t : ThrottleId) (epoch : UInt64)
  /-- The stamp differed; the throttle is enrolled next. -/
  | enrolling (t : ThrottleId)
  /-- The event is counted next. -/
  | counting (t : ThrottleId)
  /-- In a flush; these throttles are reset next. -/
  | resetting (ts : List ThrottleId)
  deriving DecidableEq

structure Config where
  roster : Roster := {}
  stamp : ThrottleId → UInt64 := fun _ => neverEnrolled
  limiter : ThrottleId → Limiter := fun _ => {}
  phase : Caller → Phase := fun _ => .idle

namespace Config

def enter (x : Config) (c : Caller) (p : Phase) : Config :=
  { x with phase := fun d => if d = c then p else x.phase d }

def stampWith (x : Config) (t : ThrottleId) (epoch : UInt64) : Config :=
  { x with stamp := fun u => if u = t then epoch else x.stamp u }

def limitWith (x : Config) (t : ThrottleId) (l : Limiter) : Config :=
  { x with limiter := fun u => if u = t then l else x.limiter u }

def Quiet (x : Config) : Prop := ∀ c, x.phase c = .idle

end Config

/-- One step of a logging call or of a flush. Each throttle has its quota. -/
inductive Step (quota : ThrottleId → Quota) : Config → Config → Prop where
  | begin {x : Config} (c : Caller) (t : ThrottleId) : x.phase c = .idle →
      Step quota x (x.enter c (.comparing t x.roster.epoch))
  | upToDate {x : Config} (c : Caller) {t : ThrottleId} {epoch : UInt64} :
      x.phase c = .comparing t epoch → x.stamp t = epoch →
      Step quota x (x.enter c (.counting t))
  | outdated {x : Config} (c : Caller) {t : ThrottleId} {epoch : UInt64} :
      x.phase c = .comparing t epoch → x.stamp t ≠ epoch →
      Step quota x (x.enter c (.enrolling t))
  | enrol {x : Config} (c : Caller) {t : ThrottleId} : x.phase c = .enrolling t →
      Step quota x { (x.enter c (.counting t)).stampWith t x.roster.epoch with
        roster := x.roster.enrol (quota t).period t }
  /-- The stopwatch may read anything. -/
  | count {x : Config} (c : Caller) {t : ThrottleId} (d : Duration) : x.phase c = .counting t →
      Step quota x ((x.enter c .idle).limitWith t
        ((x.limiter t).attempt (quota t).limit d.clockMillis).2)
  | drain {x : Config} (c : Caller) : x.phase c = .idle →
      Step quota x { x.enter c (.resetting x.roster.members) with roster := x.roster.drain }
  | reset {x : Config} (c : Caller) {t : ThrottleId} {ts : List ThrottleId} :
      x.phase c = .resetting (t :: ts) →
      Step quota x ((x.enter c (.resetting ts)).limitWith t .cleared)
  | finish {x : Config} (c : Caller) : x.phase c = .resetting [] →
      Step quota x (x.enter c .idle)

inductive Reachable (quota : ThrottleId → Quota) : Config → Prop where
  | start : Reachable quota {}
  | step {x y : Config} : Reachable quota x → Step quota x y → Reachable quota y

end LogThrottle.Interleaving.Enrolment
