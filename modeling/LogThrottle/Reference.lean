import LogThrottle.Digest
import LogThrottle.Sink
import LogThrottle.Stopwatch

/-! Plain counting: what one logger on a roster of its own delivers, said without marks, stamps and
membership. Each instance of a topic keeps the readings at its events since its last reset; the
catalogue is the list of topics in use. Nothing here fails. -/
namespace LogThrottle.Reference

structure Instance where
  topic : Topic
  /-- Stopwatch readings at the events since the last reset, oldest first. -/
  events : List Duration := []
  deriving DecidableEq

structure Ledger where
  style : Sink.Style
  limit : Nat
  capacity : Nat
  instances : List Instance := []
  /-- Topics in use with the numbers of their instances. -/
  cached : List (Topic × Nat) := []
  reading : Duration
  closed : Bool := false

/-- What can happen to the logger; instances are named by number. -/
inductive Happening where
  | lookup (topic : Topic)
  | log (severity : Severity) (template : String) (args : List Argument)
  | logThrough (i : Nat) (severity : Severity) (args : List Argument)
  | emit (i : Nat) (args : List Argument)
  | flush
  /-- The period ends. -/
  | fire
  | shutdown
  | move (m : Stopwatch.Move)

/-- What is delivered at a time. The digests of one reset pass come in any order. -/
inductive Outcome where
  | line (l : Line)
  | pass (digests : List Line)

/-- Lines that stand for a list of outcomes. -/
inductive Delivered : List Outcome → List Line → Prop where
  | nil : Delivered [] []
  | line {os : List Outcome} {ls : List Line} (l : Line) (rest : Delivered os ls) :
      Delivered (.line l :: os) (l :: ls)
  | pass {os : List Outcome} {ds es ls : List Line} (order : ds.Perm es) (rest : Delivered os ls) :
      Delivered (.pass ds :: os) (es ++ ls)

/-- The warning of a catalogue that has to start over. -/
def warning : Line :=
  ⟨.warn, "out of capacity in rate-limited log pattern cache; "
    ++ "accidentally using interpolated strings as patterns?"⟩

/-- The line for the events beyond the limit, if there are any: how many they are, and the time
since the event that reached the limit, both ends in whole milliseconds. -/
def Instance.digest? (limit : Nat) (now : Duration) (i : Instance) : Option Line :=
  match i.events[limit - 1]? with
  | none => none
  | some reached =>
    if limit < i.events.length then
      let elapsed := now.clockMillis.toNat - reached.clockMillis.toNat
      let d : Digest := ⟨i.topic, .ofNat (i.events.length - limit), .ofMillis (.ofNat elapsed)⟩
      some ⟨i.topic.voice, d.text⟩
    else none

namespace Ledger

/-- The message of a template; arguments do not fail here. -/
def message (g : Ledger) (template : String) (args : List Argument) : String :=
  (g.style.render template args).toOption.getD template

/-- One digest for each instance beyond the limit. -/
def digests (g : Ledger) : List Line := g.instances.filterMap (·.digest? g.limit g.reading)

/-- Every list of events is empty again. -/
def settled (g : Ledger) : Ledger :=
  { g with instances := g.instances.map fun i => { i with events := [] } }

def find? (g : Ledger) (topic : Topic) : Option Nat :=
  (g.cached.find? (·.1 = topic)).map Prod.snd

/-- A new instance, in use from now on. -/
def enter (g : Ledger) (topic : Topic) : Ledger :=
  { g with
    instances := g.instances ++ [{ topic }]
    cached := (topic, g.instances.length) :: g.cached }

/-- What a lookup delivers, the instance that it gives, and the ledger after it. A new topic that finds
more topics in use than the capacity begins with a reset pass and an empty catalogue. -/
def lookup (g : Ledger) (topic : Topic) : List Outcome × Nat × Ledger :=
  match g.find? topic with
  | some i => ([], i, g)
  | none =>
    if g.capacity < g.cached.length then
      ([.line warning, .pass g.digests], g.instances.length,
        { g.settled with cached := [] }.enter topic)
    else ([], g.instances.length, g.enter topic)

/-- An event passes exactly if fewer than `limit` came before it. -/
def event (g : Ledger) (i : Nat) (severity : Severity) (args : List Argument) :
    List Outcome × Ledger :=
  match g.instances[i]? with
  | none => ([], g)
  | some x =>
    (if x.events.length < g.limit then [.line ⟨severity, g.message x.topic.template args⟩] else [],
     { g with instances := g.instances.set i { x with events := x.events ++ [g.reading] } })

/-- The reading after a move; the stopwatch is not moved too far here. -/
def moved (g : Ledger) : Stopwatch.Move → Duration
  | .set d => d
  | .advance d => (g.reading.add? d).getD g.reading

/-- The outcomes of one happening, and the ledger after it. -/
def step (g : Ledger) : Happening → List Outcome × Ledger
  | .lookup topic => ((g.lookup topic).1, (g.lookup topic).2.2)
  | .log severity template args =>
    let (before, i, g) := g.lookup { template }
    let (here, g) := g.event i severity args
    (before ++ here, g)
  | .logThrough i severity args => g.event i severity args
  | .emit i args =>
    match g.instances[i]? with
    | some x => g.event i x.topic.voice args
    | none => ([], g)
  | .flush => ([.pass g.digests], g.settled)
  | .fire => if g.closed then ([], g) else ([.pass g.digests], g.settled)
  | .shutdown =>
    if g.closed then ([], g) else ([.pass g.digests], { g.settled with closed := true })
  | .move m => ([], { g with reading := g.moved m })

/-- The ledger after a list of happenings. -/
def run (g : Ledger) (hs : List Happening) : Ledger := hs.foldl (fun g h => (g.step h).2) g

/-- All outcomes of a list of happenings. -/
def outcomes (g : Ledger) : List Happening → List Outcome
  | [] => []
  | h :: hs => (g.step h).1 ++ outcomes (g.step h).2 hs

end Ledger
end LogThrottle.Reference
