import LogThrottle.Catalogue
import LogThrottle.Quota
import LogThrottle.Tally

/-! Loggers and the plans they are built from. A plan is refused for its quota before its capacity
is looked at. -/
namespace LogThrottle

structure Logger where
  roster : RosterId
  sink : SinkId
  stopwatch : StopwatchId
  counter : Option CounterId
  quota : Quota
  /-- Catalogue size beyond which the next new topic empties the catalogue. -/
  capacity : Nat
  capacity_pos : 0 < capacity
  tally : Tally := {}
  catalogue : Catalogue := {}

instance : Inhabited Logger := ⟨{
  roster := 0, sink := 0, stopwatch := 0, counter := none, quota := default
  capacity := 1, capacity_pos := by decide }⟩

/-- Why a reset scheduler did not start, with the words of the system underneath. -/
inductive SchedulerError where
  | runtime (cause : String)
  | thread (cause : String)
  deriving DecidableEq

def SchedulerError.message : SchedulerError → String
  | runtime cause => "failed to build scheduler runtime: " ++ cause
  | thread cause => "failed to spawn scheduler thread: " ++ cause

def SchedulerError.cause : SchedulerError → String
  | runtime cause | thread cause => cause

inductive PlanError where
  | quota (e : QuotaError)
  | zeroCapacity
  | scheduler (e : SchedulerError)
  deriving DecidableEq

namespace PlanError

def message : PlanError → String
  | quota e => "invalid rate: " ++ e.message
  | zeroCapacity => "max_patterns must be greater than 0"
  | scheduler e => "registry unavailable: " ++ e.message

/-- The message of the error underneath, if there is one. -/
def source : PlanError → Option String
  | quota e => some e.message
  | zeroCapacity => none
  | scheduler e => some e.message

end PlanError

structure Plan where
  roster : RosterId
  sink : SinkId
  stopwatch : StopwatchId
  counter : Option CounterId := none
  limit : UInt32
  period : Duration
  capacity : Nat := 1000
  deriving DecidableEq

def Plan.logger (p : Plan) : Except PlanError Logger :=
  match Quota.of p.limit p.period with
  | .error e => .error (.quota e)
  | .ok quota =>
    if h : 0 < p.capacity then
      .ok { p with quota, capacity_pos := h, tally := {}, catalogue := {} }
    else .error .zeroCapacity

end LogThrottle
