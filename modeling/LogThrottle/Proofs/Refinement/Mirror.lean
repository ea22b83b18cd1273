import LogThrottle.Proofs.Enrolment.Sound
import LogThrottle.Proofs.Limiter.Counting
import LogThrottle.Proofs.System.Ticking
import LogThrottle.Reference

/-! A logger on a roster of its own, beside plain counting. Instances are throttles by number, and a
limiter stands for the list of its events. -/
namespace LogThrottle.Reference
open LogThrottle.System

/-- What a logger is built with. -/
structure Setting where
  style : Sink.Style
  reading : Duration
  /-- Whether there is an external counter. -/
  counted : Bool
  quota : Quota
  capacity : Nat
  capacity_pos : 0 < capacity

namespace Setting

/-- Makes the parts, none of which ever fails, and builds the logger. -/
def opening (x : Setting) : List Action :=
  [.addSink x.style fun _ _ => none, .addStopwatch x.reading fun _ => none,
    .addCounter fun _ _ => none, .openRoster,
    .build ⟨0, 0, 0, if x.counted then some 0 else none, x.quota.limit, x.quota.period, x.capacity⟩]

def ledger (x : Setting) : Ledger where
  style := x.style
  limit := x.quota.limit.toNat
  capacity := x.capacity
  reading := x.reading

/-- What a caller does to the logger. -/
def action (x : Setting) : Happening → Action
  | .lookup topic => .lookup 0 topic
  | .log severity template args => .log 0 severity template args
  | .logThrough i severity args => .logThrough i severity args
  | .emit i args => .emit i args
  | .flush => .flush 0
  | .fire => .fire 0 x.quota.period
  | .shutdown => .shutdown 0
  | .move m => .move 0 m

/-- The opening, and then what happens. -/
def actions (x : Setting) (hs : List Happening) : List Action := x.opening ++ hs.map x.action

end Setting

/-- Instances that are named exist, arguments are shown without a fault, and the stopwatch is not moved
too far. -/
def Happening.Fits (g : Ledger) : Happening → Prop
  | .log _ _ args => Painless args
  | .logThrough i _ args | .emit i args => i < g.instances.length ∧ Painless args
  | .move (.advance d) => g.reading.add? d ≠ none
  | _ => True

/-- Each of a list of happenings fits when its turn comes. -/
def Ledger.Fitting (g : Ledger) : List Happening → Prop
  | [] => True
  | h :: hs => h.Fits g ∧ Fitting (g.step h).2 hs

/-- A throttle of the logger with the events of an instance, of which there are at most `n`. -/
structure Stands (x : Setting) (n : Nat) (i : Instance) (t : Throttle) : Prop where
  logger : t.logger = 0
  topic : t.topic = i.topic
  tracks : t.limiter.Tracks x.quota.limit i.events
  few : i.events.length ≤ n

/-- The logger and what it deals with, as far as the ledger tells. -/
structure Surrounds (x : Setting) (g : Ledger) (s : System) : Prop where
  calm : Calm s
  held : s.loggerHeld 0
  listed : 0 < s.loggers.size
  watched : 0 < s.stopwatches.size
  roster : (s.logger 0).roster = 0
  sink : (s.logger 0).sink = 0
  stopwatch : (s.logger 0).stopwatch = 0
  quota : (s.logger 0).quota = x.quota
  capacity : (s.logger 0).capacity = g.capacity
  limit : x.quota.limit.toNat = g.limit
  style : (s.sink 0).style = g.style
  reading : (s.stopwatch 0).reading = g.reading
  cached : ∀ topic, (s.logger 0).catalogue.find? topic = g.find? topic
  full : (s.logger 0).catalogue.size = g.cached.length

/-- The ledger tells what is counted in the system. -/
structure Mirrors (x : Setting) (g : Ledger) (n : Nat) (s : System) : Prop extends
    Surrounds x g s where
  size : s.throttles.size = g.instances.length
  stands : ∀ t i, g.instances[t]? = some i → Stands x n i (s.throttle t)

/-- Nothing that the ledger tells of the surroundings has changed. -/
structure Unmoved (s s' : System) : Prop where
  calm : Calm s → Calm s'
  holders : s'.holders = s.holders
  loggers : s'.loggers.size = s.loggers.size
  stopwatches : s'.stopwatches.size = s.stopwatches.size
  logger : ∀ l, { s'.logger l with tally := {} } = { s.logger l with tally := {} }
  style : ∀ k, (s'.sink k).style = (s.sink k).style
  reading : ∀ w, (s'.stopwatch w).reading = (s.stopwatch w).reading

namespace Unmoved
variable {s s' s'' : System}

theorem refl (s : System) : Unmoved s s :=
  ⟨id, rfl, rfl, rfl, fun _ => rfl, fun _ => rfl, fun _ => rfl⟩

theorem told {es : List Entry} (h : Told es s s') : Unmoved s s' where
  calm := h.calm
  holders := h.holders
  loggers := h.loggers
  stopwatches := h.stopwatches
  logger l := congrArg (fun x : Logger => { x with tally := {} }) (h.logger l)
  style k := (congrArg Sink.style (h.sink k) :)
  reading w := (congrArg Stopwatch.reading (h.stopwatch w) :)

theorem changeTally (s : System) (l : LoggerId) (f : Tally → Tally) :
    Unmoved s (changeTally l f s) := by
  refine { refl s with
    calm := fun c => ⟨c.sink, c.stopwatch, c.counter⟩
    loggers := size_loggers_changeTally ..
    logger := fun i => ?_ }
  rw [logger_changeTally]
  split <;> rfl

/-- Rosters and throttles are no part of the surroundings. -/
theorem of_parts (sinks : s'.sinks = s.sinks) (stopwatches : s'.stopwatches = s.stopwatches)
    (counters : s'.counters = s.counters) (loggers : s'.loggers = s.loggers)
    (holders : s'.holders = s.holders) : Unmoved s s' where
  calm c := by
    refine ⟨fun k => ?_, fun w => ?_, fun i => ?_⟩
    · rw [System.sink, sinks]
      exact c.sink k
    · rw [System.stopwatch, stopwatches]
      exact c.stopwatch w
    · rw [System.counter, counters]
      exact c.counter i
  holders := holders
  loggers := congrArg Array.size loggers
  stopwatches := congrArg Array.size stopwatches
  logger l := by rw [System.logger, loggers, System.logger]
  style k := by rw [System.sink, sinks, System.sink]
  reading w := by rw [System.stopwatch, stopwatches, System.stopwatch]

theorem enrolled (s : System) (r : RosterId) (t : ThrottleId) : Unmoved s (enrolled r t s) :=
  of_parts rfl rfl rfl rfl rfl

end Unmoved

variable {x : Setting} {g : Ledger} {n : Nat} {s s' : System}

theorem Surrounds.unmoved (m : Surrounds x g s) (h : Unmoved s s') : Surrounds x g s' where
  calm := h.calm m.calm
  held := by
    rw [loggerHeld, h.holders]
    exact m.held
  listed := h.loggers ▸ m.listed
  watched := h.stopwatches ▸ m.watched
  roster := (congrArg Logger.roster (h.logger 0) :).trans m.roster
  sink := (congrArg Logger.sink (h.logger 0) :).trans m.sink
  stopwatch := (congrArg Logger.stopwatch (h.logger 0) :).trans m.stopwatch
  quota := (congrArg Logger.quota (h.logger 0) :).trans m.quota
  capacity := (congrArg Logger.capacity (h.logger 0) :).trans m.capacity
  limit := m.limit
  style := (h.style 0).trans m.style
  reading := (h.reading 0).trans m.reading
  cached topic := by
    rw [(congrArg Logger.catalogue (h.logger 0) :)]
    exact m.cached topic
  full := by
    rw [(congrArg Logger.catalogue (h.logger 0) :)]
    exact m.full

namespace Mirrors

/-- Stamps may change. -/
theorem unmoved (m : Mirrors x g n s) (h : Unmoved s s') (size : s'.throttles.size = s.throttles.size)
    (throttle : ∀ t, { s'.throttle t with stamp := 0 } = { s.throttle t with stamp := 0 }) :
    Mirrors x g n s' where
  toSurrounds := m.toSurrounds.unmoved h
  size := size.trans m.size
  stands t i hi := by
    have same := m.stands t i hi
    exact ⟨(congrArg Throttle.logger (throttle t) :).trans same.logger,
      (congrArg Throttle.topic (throttle t) :).trans same.topic,
      (congrArg Throttle.limiter (throttle t) :) ▸ same.tracks, same.few⟩

theorem wrote {es : List Entry} (m : Mirrors x g n s) (h : Wrote es s s') : Mirrors x g n s' :=
  m.unmoved (.told h.told) (congrArg Array.size h.throttles) fun t => by
    rw [throttle, h.throttles, throttle]

theorem changeRoster (m : Mirrors x g n s) (r : RosterId) (f : Roster → Roster) :
    Mirrors x g n (changeRoster r f s) :=
  m.unmoved (.of_parts rfl rfl rfl rfl rfl) rfl fun _ => rfl

theorem enrolled (m : Mirrors x g n s) (r : RosterId) (t : ThrottleId) :
    Mirrors x g n (enrolled r t s) := by
  refine m.unmoved (.enrolled s r t) (size_throttles_enrolled ..) fun i => ?_
  rw [throttle_enrolled]
  split <;> rfl

theorem mono {k : Nat} (m : Mirrors x g n s) (le : n ≤ k) : Mirrors x g k s :=
  { m with stands := fun t i hi => { m.stands t i hi with few := Nat.le_trans (m.stands t i hi).few le } }

section Reads
variable {t : ThrottleId} {i : Instance} (m : Mirrors x g n s) (h : Stands x n i (s.throttle t))
include m h

theorem limit_eq : s.limit t = x.quota.limit := by rw [System.limit, h.logger, m.quota]

theorem now_eq : s.now t = g.reading := by rw [now, h.logger, m.stopwatch, m.reading]

theorem sink_eq : (s.logger (s.throttle t).logger).sink = 0 := by rw [h.logger, m.sink]

theorem home_eq : s.home t = 0 := by rw [home, h.logger, m.roster]

theorem period_eq : s.period t = x.quota.period := by rw [period, h.logger, m.quota]

end Reads

end Mirrors
end LogThrottle.Reference
