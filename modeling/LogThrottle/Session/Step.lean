import LogThrottle.Session.Refusal
import LogThrottle.Session.State

/-! Steps of a session: requests over named parts, and their replies. A name is given to the new
part before the part that had it is let go. -/
namespace LogThrottle

/-- What a name that is let go stands for. -/
inductive Named where
  | guard | handle | logger | roster
  deriving DecidableEq

inductive Step where
  | roster (id : String)
  | sink (id : String) (style : Sink.Style) (refusal : Option Refusal)
  | stopwatch (id : String) (reading : Duration)
  | move (id : String) (m : Stopwatch.Move)
  | counter (id : String) (refused : List String)
  | build (id roster sink stopwatch : String) (counter : Option String) (limit : UInt32)
      (period : Duration) (capacity : Nat)
  | log (id : String) (severity : Severity) (template : String) (args : List Argument) (times : Nat)
  | fill (id template : String) (first count : Nat) (severity : Option Severity)
  | lookup (id logger : String) (topic : Topic)
  | share (id source : String)
  | tally (id : String)
  | resetTally (id : String)
  | logThrough (id : String) (severity : Option Severity) (args : List Argument) (times : Nat)
  | attempt (id : String) (times : Nat)
  | compare (a b : String)
  | inspect (id : String)
  | enrol (id handle : String)
  | members (id : String) (period : Duration)
  | flush (id : String)
  | shutdown (id : String)
  | guard (id roster : String)
  | seen (id : String)
  | empty (id : String)
  | counts (id : String)
  | letGo (what : Named) (id : String)
  | tick (id : String)

inductive Reply where
  | nothing
  | unusable
  | fault (f : Fault)
  | refused (e : PlanError)
  | built (quota : Quota) (ownRoster : Bool)
  | number (n : Nat)
  | text (s : String)
  | decisions (ds : List Decision)
  | handle (topic : Topic) (quota : Quota) (limiter : Limiter) (same : List String)
  | tally (t : Tally)
  | compared (equal same : Bool)
  /-- All lines of a sink, and the messages of the digests among them in rising order. -/
  | seen (lines : List Line) (digests : List String)
  /-- An external counter at every severity, mildest first. -/
  | counted (counts : List Nat)
  deriving DecidableEq

namespace Session

/-- One second: shorter periods run out at every tick, others never do by themselves. -/
def tickBound : Nat := 1_000_000_000

def repeated : Nat → Call Unit → Call Unit
  | 0, _ => return
  | n + 1, c => do
    c
    repeated n c

def attempts (t : ThrottleId) : Nat → List Decision → Call (List Decision)
  | 0, ds => return ds.reverse
  | n + 1, ds => do attempts t n ((← (Action.attempt t).perform) :: ds)

/-- Looks up topics whose templates end in consecutive numbers. -/
def lookups (l : LoggerId) (template : String) (severity : Option Severity) :
    Nat → Nat → Call Unit
  | _, 0 => return
  | first, n + 1 => do
    discard (Action.lookup l ⟨template ++ toString first, severity⟩).perform
    lookups l template severity (first + 1) n

def ticks (r : RosterId) : List Duration → Call Unit
  | [] => return
  | period :: rest => do
    if period.nanos < tickBound then (Action.fire r period).perform
    ticks r rest

/-- The throttle behind a handle, with its quota. -/
def throttleOf (t : ThrottleId) : Play (Throttle × Quota) := do
  let throttle := (← get).system.throttle t
  return (throttle, ((← get).system.logger throttle.logger).quota)

def letGoRoster (r : RosterId) : Play Unit := act (.release ⟨.owner, r⟩)
def letGoGuard (r : RosterId) : Play Unit := act (.release ⟨.guard, r⟩)

def letGoLogger (l : LoggerId) : Play Unit := do
  act (.release ⟨.logger l, ((← get).system.logger l).roster⟩)

/-- Names a part and lets go of the part that had the name. -/
def rename {α : Type} (names : Session → Names α) (change : Names α → Session → Session)
    (letGo : α → Play Unit) (id : String) (a : α) : Play Unit := do
  let old := (names (← get)).find? id
  modify fun s => change ((names s).put id a) s
  if let some b := old then letGo b

def nameLogger (id : String) (l : LoggerId) : Play Unit :=
  rename loggers (fun n s => { s with loggers := n }) letGoLogger id l

def forget {α : Type} (names : Session → Names α) (change : Names α → Session → Session)
    (letGo : α → Play Unit) (id : String) : Play Unit := do
  let a ← named names id
  modify fun s => change ((names s).erase id) s
  letGo a

def play : Step → Play Reply
  | .roster id => do
    let r ← act .openRoster
    rename rosters (fun n s => { s with rosters := n }) letGoRoster id r
    modify fun s => { s with onceRosters := s.onceRosters.put id r }
    return .nothing
  | .sink id style refusal => do
    let k ← act (.addSink style (match refusal with
      | some r => r.fault
      | none => fun _ _ => none))
    modify fun s => { s with
      sinks := s.sinks.put id k
      labels := s.labels.push id
      starts := s.starts.push 0 }
    return .nothing
  | .stopwatch id reading => do
    let w ← act (.addStopwatch reading fun _ => none)
    modify fun s => { s with stopwatches := s.stopwatches.put id w }
    return .nothing
  | .move id m => do
    act (.move (← named stopwatches id) m)
    return .nothing
  | .counter id refused => do
    let c ← act (.addCounter (Refusal.counterFault refused))
    modify fun s => { s with counters := s.counters.put id c }
    return .nothing
  | .build id roster sink stopwatch counter limit period capacity => do
    let r ← named rosters roster
    let sink ← named sinks sink
    let stopwatch ← named stopwatches stopwatch
    let counter ← counter.mapM (named counters)
    match ← act (.build { roster := r, sink, stopwatch, counter, limit, period, capacity }) with
    | .error e => return .refused e
    | .ok l =>
      nameLogger id l
      let logger := (← get).system.logger l
      return .built logger.quota (logger.roster = r)
  | .log id severity template args times => do
    let l ← named loggers id
    onSystem (repeated times (Action.log l severity template args).perform)
    return .nothing
  | .fill id template first count severity => do
    let l ← named loggers id
    onSystem (lookups l template severity first count)
    return .number ((← get).system.logger l).catalogue.size
  | .lookup id logger topic => do
    let l ← named loggers logger
    let t ← act (.lookup l topic)
    let same := (← get).handles.entries.filter (·.2 = t)
    modify fun s => { s with handles := s.handles.put id t }
    let (throttle, quota) ← throttleOf t
    return .handle throttle.topic quota throttle.limiter (same.map Prod.fst)
  | .share id source => do
    let l ← named loggers source
    act (.share l)
    nameLogger id l
    return .nothing
  | .tally id => do
    let l ← named loggers id
    return .tally ((← get).system.logger l).tally
  | .resetTally id => do
    act (.resetTally (← named loggers id))
    return .nothing
  | .logThrough id severity args times => do
    let t ← named handles id
    onSystem (repeated times (match severity with
      | some s => (Action.logThrough t s args).perform
      | none => (Action.emit t args).perform))
    return .nothing
  | .attempt id times => do
    let t ← named handles id
    return .decisions (← onSystem (attempts t times []))
  | .compare a b => do
    let a ← named handles a
    let b ← named handles b
    let (x, _) ← throttleOf a
    let (y, _) ← throttleOf b
    return .compared (x.topic = y.topic) (a = b)
  | .inspect id => do
    match (← get).handles.find? id with
    | some t =>
      let (throttle, quota) ← throttleOf t
      return .text (throttle.inspect quota)
    | none => return .text ((← get).system.roster (← named rosters id)).inspect
  | .enrol id handle => do
    let r ← named rosters id
    act (.enrol r (← named handles handle))
    return .nothing
  | .members id period => do
    let r ← named rosters id
    return .number (((← get).system.roster r).membersAt period).length
  | .flush id => do
    act (.flush (← named rosters id))
    return .nothing
  | .shutdown id => do
    act (.shutdown (← named rosters id))
    return .nothing
  | .guard id roster => do
    let r ← named rosters roster
    act (.guard r)
    rename guards (fun n s => { s with guards := n }) letGoGuard id r
    return .nothing
  | .seen id => do
    let k ← named sinks id
    let lines := (← get).kept k
    return .seen (Line.settled lines) ((Line.digests lines).mergeSort fun a b => decide (a ≤ b))
  | .empty id => do
    let k ← named sinks id
    modify fun s => { s with starts := s.starts.setIfInBounds k (s.system.delivered k).length }
    return .nothing
  | .counts id => do
    let c ← named counters id
    let counter := (← get).system.counter c
    return .counted (Severity.all.map fun severity => counter.count severity.counterName)
  | .letGo .guard id => do
    forget guards (fun n s => { s with guards := n }) letGoGuard id
    return .nothing
  | .letGo .handle id => do
    forget handles (fun n s => { s with handles := n }) (fun _ => return) id
    return .nothing
  | .letGo .logger id => do
    forget loggers (fun n s => { s with loggers := n }) letGoLogger id
    return .nothing
  | .letGo .roster id => do
    forget rosters (fun n s => { s with rosters := n }) letGoRoster id
    return .nothing
  | .tick id => do
    let r ← named onceRosters id
    onSystem (ticks r ((← get).system.roster r).slots.keys)
    return .nothing

/-- A step that stops leaves what it did before. -/
def step (s : Session) (x : Step) : Reply × Session :=
  match (play x).run.run s with
  | (.ok r, s) => (r, s)
  | (.error (.fault f), s) => (.fault f, s)
  | (.error .unusable, s) => (.unusable, s)

/-- Lets go of everything: guards, handles, loggers, rosters. -/
def finish (s : Session) : Session :=
  let held : List (Named × String) :=
    (s.guards.entries.map fun e => (.guard, e.1)) ++ (s.handles.entries.map fun e => (.handle, e.1))
      ++ (s.loggers.entries.map fun e => (.logger, e.1))
      ++ (s.rosters.entries.map fun e => (.roster, e.1))
  held.foldl (fun s (what, id) => (s.step (.letGo what id)).2) s

end Session
end LogThrottle
