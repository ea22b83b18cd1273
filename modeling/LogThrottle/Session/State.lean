import LogThrottle.Inspect
import LogThrottle.Session.Listing
import LogThrottle.Session.Names
import LogThrottle.System.Action
import LogThrottle.System.Views

/-! Sessions: a logging system whose parts are known by name, and computations on it that may stop.
-/
namespace LogThrottle

structure Session where
  system : System := {}
  sinks : Names SinkId := {}
  stopwatches : Names StopwatchId := {}
  counters : Names CounterId := {}
  rosters : Names RosterId := {}
  /-- Every roster by its last name, also after the name was let go. -/
  onceRosters : Names RosterId := {}
  loggers : Names LoggerId := {}
  handles : Names ThrottleId := {}
  guards : Names RosterId := {}
  /-- The name under which each sink was made, by its number. -/
  labels : Array String := #[]
  /-- How many lines each sink had taken when it was made or last emptied, by its number. -/
  starts : Array Nat := #[]

/-- Why a step stops early: a fault reached the caller, or the step asks for what is not there. -/
inductive Halt where
  | fault (f : Fault)
  | unusable
  deriving DecidableEq

abbrev Play := ExceptT Halt (StateM Session)

namespace Session

instance : Inhabited Session := ⟨{}⟩

/-- Runs a computation on the session's system. -/
def onSystem {α : Type} (c : Call α) : Play α := do
  let system ← modifyGet fun s => (s.system, { s with system := {} })
  let (answer, system) := c.exec system
  modify fun s => { s with system }
  match answer with
  | .ok a => return a
  | .error f => throw (.fault f)

def act (a : Action) : Play a.Answer := onSystem a.perform

/-- What a name stands for. -/
def named {α : Type} (names : Session → Names α) (name : String) : Play α := do
  match (names (← get)).find? name with
  | some a => return a
  | none => throw .unusable

def label (s : Session) (k : SinkId) : String := s.labels.getD k ""

/-- The line of an entry under its sink's name. A tracing sink passes its lines on and keeps none. -/
def delivery? (s : Session) : Entry → Option Delivery
  | .line _ k line => if (s.system.sink k).style = .traced then none else some ⟨s.label k, line⟩
  | .notice _ => none

/-- Lines that recording sinks took since a position in the journal, as listings show them. -/
def deliveries (s : Session) (start : Nat) : List Delivery :=
  Delivery.settled ((s.system.journal.toList.drop start).filterMap s.delivery?)

/-- The lines that a sink keeps, since it was last emptied. -/
def kept (s : Session) (k : SinkId) : List Line :=
  if (s.system.sink k).style = .traced then []
  else (s.system.delivered k).drop (s.starts.getD k 0)

end Session
end LogThrottle
