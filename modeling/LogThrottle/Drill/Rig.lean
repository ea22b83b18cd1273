import LogThrottle.Session.Listing
import LogThrottle.System.Action
import LogThrottle.System.Views

/-! A rig: a small system made for one purpose, with a sink, a stopwatch, a counter and a roster. -/
namespace LogThrottle

structure Rig where
  sink : SinkId
  stopwatch : StopwatchId
  counter : CounterId
  roster : RosterId

namespace Rig

def assemble (style : Sink.Style) (reading : Duration) : Call Rig := do
  return {
    sink := ← (Action.addSink style fun _ _ => none).perform
    stopwatch := ← (Action.addStopwatch reading fun _ => none).perform
    counter := ← (Action.addCounter fun _ _ => none).perform
    roster := ← Action.openRoster.perform }

/-- A period that no drill outlasts. -/
def hour : Duration := ⟨3_600_000_000_000, by decide⟩

def plan (rig : Rig) (limit : UInt32) (period : Duration) (capacity : Nat) : Plan :=
  { rig with counter := some rig.counter, limit, period, capacity }

/-- Lines that the rig's sink took. -/
def lines (rig : Rig) (s : System) : List Line := s.delivered rig.sink

def count (rig : Rig) (s : System) (severity : Severity) : Nat :=
  (s.counter rig.counter).count severity.counterName

/-- Runs a drill on an empty system. -/
def run {α : Type} (c : Call α) : Except Fault α := (c.exec {}).1

end Rig
end LogThrottle
