import LogThrottle.System.Enrolment

/-! Building loggers, and holding and releasing rosters. The last holder's release closes the
roster. -/
namespace LogThrottle.System

def hold (h : Holder) : Call Unit :=
  modify fun s => { s with holders := h :: s.holders }

def release (h : Holder) : Call Unit := do
  if h ∈ (← get).holders then
    if h.kind = .guard then flush h.roster
    modify fun s => { s with holders := s.holders.erase h }
    unless (← get).alive h.roster do shutdown h.roster

def addSink (x : Sink) : Call SinkId :=
  modifyGet fun s => (s.sinks.size, { s with sinks := s.sinks.push x })

def addStopwatch (x : Stopwatch) : Call StopwatchId :=
  modifyGet fun s => (s.stopwatches.size, { s with stopwatches := s.stopwatches.push x })

def addCounter (x : Counter) : Call CounterId :=
  modifyGet fun s => (s.counters.size, { s with counters := s.counters.push x })

/-- A new roster is held by its owner. -/
def openRoster : Call RosterId := do
  let r ← modifyGet fun s => (s.rosters.size, { s with rosters := s.rosters.push {} })
  hold ⟨.owner, r⟩
  return r

/-- A new logger holds its roster. -/
def build (p : Plan) : Call (Except PlanError LoggerId) := do
  match p.logger with
  | .error e => return .error e
  | .ok logger =>
    let l ← modifyGet fun s => (s.loggers.size, { s with loggers := s.loggers.push logger })
    hold ⟨.logger l, p.roster⟩
    return .ok l

/-- A clone of a logger holds the roster too. -/
def share (l : LoggerId) : Call Unit := do
  hold ⟨.logger l, ((← get).logger l).roster⟩

end LogThrottle.System
