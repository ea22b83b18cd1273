import LogThrottle.System.Call

/-! Calls on the parts that may fail: sinks, stopwatches and external counters. A line is in the
journal exactly if its sink took it. -/
namespace LogThrottle.System

def deliver (o : Origin) (k : SinkId) (line : Line) : Call Unit := do
  let (answer, sink) := ((← get).sink k).offer line
  modify fun s => { s with sinks := s.sinks.setIfInBounds k sink }
  ofExcept answer
  modify (write (.line o k line))

/-- The arguments are shown before the line is offered. -/
def deliverTemplate (o : Origin) (k : SinkId) (severity : Severity) (template : String)
    (args : List Argument) : Call Unit := do
  let message ← ofExcept (((← get).sink k).style.render template args)
  deliver o k ⟨severity, message⟩

def readClock (w : StopwatchId) : Call UInt64 := do
  let (answer, stopwatch) := ((← get).stopwatch w).read
  modify fun s => { s with stopwatches := s.stopwatches.setIfInBounds w stopwatch }
  Duration.clockMillis <$> ofExcept answer

def moveClock (w : StopwatchId) (m : Stopwatch.Move) : Call Unit := do
  let (answer, stopwatch) := ((← get).stopwatch w).move m
  modify fun s => { s with stopwatches := s.stopwatches.setIfInBounds w stopwatch }
  ofExcept answer

def increment (c : CounterId) (name : String) : Call Unit := do
  let (answer, counter) := ((← get).counter c).increment name
  modify fun s => { s with counters := s.counters.setIfInBounds c counter }
  ofExcept answer

/-- An external counter, if there is one, counts every call. -/
def countCall : Option CounterId → String → Call Unit
  | some c, name => increment c name
  | none, _ => return

end LogThrottle.System
