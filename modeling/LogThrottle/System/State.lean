import LogThrottle.Counter
import LogThrottle.Digest
import LogThrottle.Logger
import LogThrottle.Roster
import LogThrottle.Sink
import LogThrottle.Stopwatch
import LogThrottle.Throttle

/-! The state of a logging system: its parts by number, who holds its rosters, and one journal of
all that was delivered. Parts stay listed after nobody holds them, because throttles outlive rosters
and sinks outlive loggers. -/
namespace LogThrottle

inductive Holder.Kind where
  | owner
  /-- Flushes the roster when it is released. -/
  | guard
  | logger (l : LoggerId)
  deriving DecidableEq

/-- What keeps a roster open. A logger is held once for each of its clones. -/
structure Holder where
  kind : Holder.Kind
  roster : RosterId
  deriving DecidableEq

/-- Diagnostic events of the system itself. -/
inductive Notice where
  | scheduling | flushing | overflowed | resetFailed
  deriving DecidableEq

namespace Notice

def severity : Notice → Severity
  | resetFailed => .warn
  | _ => .debug

def target : Notice → String
  | scheduling | flushing => "rate_limited_log::application::registry"
  | overflowed => "rate_limited_log::application::cache"
  | resetFailed => "rate_limited_log::application::pattern"

def message : Notice → String
  | scheduling => "scheduling rate-limited log resets"
  | flushing => "flushing rate-limited log registry"
  | overflowed => "rate-limited log pattern cache overflowed"
  | resetFailed => "rate-limited log reset failed"

end Notice

/-- What a delivered line is about. -/
inductive Origin where
  /-- A caller offered it to the sink directly. -/
  | caller
  | event (t : ThrottleId)
  | digest (t : ThrottleId) (d : Digest)
  /-- A reset that failed. -/
  | failure (t : ThrottleId)
  | overflow (l : LoggerId)
  deriving DecidableEq

inductive Entry where
  | line (origin : Origin) (sink : SinkId) (line : Line)
  | notice (n : Notice)
  deriving DecidableEq

structure System where
  sinks : Array Sink := #[]
  stopwatches : Array Stopwatch := #[]
  counters : Array Counter := #[]
  rosters : Array Roster := #[]
  loggers : Array Logger := #[]
  throttles : Array Throttle := #[]
  holders : List Holder := []
  journal : Array Entry := #[]

namespace System

instance : Inhabited System := ⟨{}⟩

def sink (s : System) (i : SinkId) : Sink := s.sinks.getD i default
def stopwatch (s : System) (i : StopwatchId) : Stopwatch := s.stopwatches.getD i default
def counter (s : System) (i : CounterId) : Counter := s.counters.getD i default
def roster (s : System) (i : RosterId) : Roster := s.rosters.getD i default
def logger (s : System) (i : LoggerId) : Logger := s.loggers.getD i default
def throttle (s : System) (i : ThrottleId) : Throttle := s.throttles.getD i default

/-- A roster is alive while somebody holds it. -/
def alive (s : System) (r : RosterId) : Bool := s.holders.any (·.roster = r)

def setLimiter (t : ThrottleId) (l : Limiter) (s : System) : System :=
  { s with throttles := s.throttles.modify t fun x => { x with limiter := l } }

def setStamp (t : ThrottleId) (epoch : UInt64) (s : System) : System :=
  { s with throttles := s.throttles.modify t fun x => { x with stamp := epoch } }

def changeRoster (r : RosterId) (f : Roster → Roster) (s : System) : System :=
  { s with rosters := s.rosters.modify r f }

def changeTally (l : LoggerId) (f : Tally → Tally) (s : System) : System :=
  { s with loggers := s.loggers.modify l fun x => { x with tally := f x.tally } }

def setCatalogue (l : LoggerId) (c : Catalogue) (s : System) : System :=
  { s with loggers := s.loggers.modify l fun x => { x with catalogue := c } }

def write (e : Entry) (s : System) : System := { s with journal := s.journal.push e }

end System
end LogThrottle
