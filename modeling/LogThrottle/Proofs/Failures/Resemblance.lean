import LogThrottle.Proofs.System.Pairing
import LogThrottle.Proofs.System.Written
import LogThrottle.System.Lookup

/-! Two systems that limit alike. Their sinks and counters may fail at different times, and so take
different lines and count different calls; all that decides on events is the same in both. -/
namespace LogThrottle

/-- A logger but for its count of digests: a digest is counted only if its sink took it. -/
def Logger.undigested (x : Logger) : Logger := { x with tally := { x.tally with digests := 0 } }

namespace System
open Call

/-- No sink fails on the warning of an overflow. -/
def Heeded (s : System) : Prop := ∀ k n, (s.sink k).fault n ⟨.warn, overflowWarning⟩ = none

theorem Heeded.of_sink {s s' : System} (h : s.Heeded)
    (same : ∀ k, (s'.sink k).fault = (s.sink k).fault) : s'.Heeded := by
  intro k n
  rw [same]
  exact h k n

/-- What two systems have in common that differ in the failures of sinks, counters and arguments. -/
structure Resembles (s s' : System) : Prop where
  throttles : s'.throttles = s.throttles
  rosters : s'.rosters = s.rosters
  holders : s'.holders = s.holders
  stopwatches : s'.stopwatches = s.stopwatches
  loggers : s'.loggers.size = s.loggers.size
  logger : ∀ l, (s'.logger l).undigested = (s.logger l).undigested
  heeded : s.Heeded ∧ s'.Heeded

namespace Resembles
variable {s s' : System}

theorem symm (h : Resembles s s') : Resembles s' s where
  throttles := h.throttles.symm
  rosters := h.rosters.symm
  holders := h.holders.symm
  stopwatches := h.stopwatches.symm
  loggers := h.loggers.symm
  logger l := (h.logger l).symm
  heeded := h.heeded.symm

theorem throttle_eq (h : Resembles s s') (t : ThrottleId) : s'.throttle t = s.throttle t := by
  rw [throttle, h.throttles, throttle]

theorem roster_eq (h : Resembles s s') (r : RosterId) : s'.roster r = s.roster r := by
  rw [roster, h.rosters, roster]

theorem stopwatch_eq (h : Resembles s s') (w : StopwatchId) : s'.stopwatch w = s.stopwatch w := by
  rw [stopwatch, h.stopwatches, stopwatch]

theorem alive_eq (h : Resembles s s') (r : RosterId) : s'.alive r = s.alive r := by
  rw [alive, h.holders, alive]

section Loggers
variable (h : Resembles s s') (l : LoggerId)
include h

theorem logger_roster : (s'.logger l).roster = (s.logger l).roster :=
  (congrArg Logger.roster (h.logger l) :)

theorem logger_stopwatch : (s'.logger l).stopwatch = (s.logger l).stopwatch :=
  (congrArg Logger.stopwatch (h.logger l) :)

theorem logger_quota : (s'.logger l).quota = (s.logger l).quota :=
  (congrArg Logger.quota (h.logger l) :)

theorem logger_capacity : (s'.logger l).capacity = (s.logger l).capacity :=
  (congrArg Logger.capacity (h.logger l) :)

theorem logger_catalogue : (s'.logger l).catalogue = (s.logger l).catalogue :=
  (congrArg Logger.catalogue (h.logger l) :)

end Loggers

theorem setLimiter (h : Resembles s s') (t : ThrottleId) (x : Limiter) :
    Resembles (setLimiter t x s) (System.setLimiter t x s') :=
  { h with
    throttles := congrArg (fun ts : Array Throttle => ts.modify t fun y => { y with limiter := x })
      h.throttles }

theorem setStamp (h : Resembles s s') (t : ThrottleId) (e : UInt64) :
    Resembles (setStamp t e s) (System.setStamp t e s') :=
  { h with
    throttles := congrArg (fun ts : Array Throttle => ts.modify t fun y => { y with stamp := e })
      h.throttles }

theorem changeRoster (h : Resembles s s') (r : RosterId) (f : Roster → Roster) :
    Resembles (changeRoster r f s) (System.changeRoster r f s') :=
  { h with rosters := congrArg (fun rs : Array Roster => rs.modify r f) h.rosters }

/-- Loggers that change alike, whatever their counts of digests. -/
private theorem change_loggers (h : Resembles s s') {ls ls' : Array Logger}
    (size : ls'.size = ls.size)
    (logger : ∀ l, (ls'.getD l default).undigested = (ls.getD l default).undigested) :
    Resembles { s with loggers := ls } { s' with loggers := ls' } :=
  { h with loggers := size, logger }

theorem setCatalogue (h : Resembles s s') (l : LoggerId) (c : Catalogue) :
    Resembles (setCatalogue l c s) (System.setCatalogue l c s') := by
  refine h.change_loggers (by simp only [Array.size_modify, h.loggers]) fun i => ?_
  rw [getD_modify, getD_modify, h.loggers]
  split
  · exact congrArg (fun x : Logger => { x with catalogue := c }) (h.logger i)
  · exact h.logger i

/-- A change of a tally that leaves the other counts to themselves. -/
theorem changeTally (h : Resembles s s') (l : LoggerId) {f : Tally → Tally}
    (apart : ∀ x, f { x with digests := 0 } = { f x with digests := 0 }) :
    Resembles (changeTally l f s) (System.changeTally l f s') := by
  have outcome (x : Logger) : Logger.undigested { x with tally := f x.tally } =
      { x with tally := f x.undigested.tally } :=
    congrArg (fun y : Tally => { x with tally := y }) (apart x.tally).symm
  refine h.change_loggers (by simp only [Array.size_modify, h.loggers]) fun i => ?_
  rw [getD_modify, getD_modify, h.loggers]
  split
  · rw [outcome, outcome]
    exact congrArg (fun x : Logger => { x with tally := f x.tally }) (h.logger i)
  · exact h.logger i

theorem write (h : Resembles s s') (e e' : Entry) : Resembles (write e s) (System.write e' s') :=
  { h with }

end Resembles

section Aside

theorem aside_write (e : Entry) : Aside Resembles (modify (write e)) := fun _ _ h => { h with }

theorem aside_countDigest (l : LoggerId) : Aside Resembles (modify (changeTally l Tally.countDigest)) := by
  intro s s' h
  refine { h with loggers := h.loggers.trans (size_loggers_changeTally ..).symm, logger := fun i => ?_ }
  rw [exec_modify, logger_changeTally]
  split
  · exact h.logger i
  · exact h.logger i

/-- A sink that is asked to take a line fails on others as before. -/
private theorem resembles_asked {s s' : System} (h : Resembles s s') (k : SinkId) (line : Line) :
    Resembles { s with sinks := s.sinks.setIfInBounds k ((s.sink k).offer line).2 } s' := by
  refine { h with heeded := ⟨h.heeded.1.of_sink fun i => ?_, h.heeded.2⟩ }
  rw [sink, getD_setIfInBounds]
  split
  · rename_i own
    exact own.1 ▸ rfl
  · rfl

theorem aside_deliver (o : Origin) (k : SinkId) (line : Line) : Aside Resembles (deliver o k line) := by
  intro s s' h
  have asked := resembles_asked h k line
  simp only [deliver, exec_bind, exec_get, exec_modify, exec_ofExcept]
  cases ((s.sink k).offer line).1 with
  | error f => exact asked
  | ok => exact aside_write (.line o k line) _ _ asked

theorem aside_deliverTemplate (o : Origin) (k : SinkId) (severity : Severity) (template : String)
    (args : List Argument) : Aside Resembles (deliverTemplate o k severity template args) :=
  aside_get.bind fun _ => (aside_ofExcept _).bind fun _ => aside_deliver o k _

theorem aside_countCall (c : Option CounterId) (name : String) :
    Aside Resembles (countCall c name) := by
  cases c with
  | none => exact aside_pure ()
  | some c =>
    have asked (x : Counter) : Aside Resembles
        (modify fun s => { s with counters := s.counters.setIfInBounds c x }) := fun _ _ h => { h with }
    exact aside_get.bind fun _ => (asked _).bind fun _ => aside_ofExcept _

theorem aside_reportFailure (t : ThrottleId) (f : Fault) : Aside Resembles (reportFailure t f) :=
  aside_get.bind fun _ => aside_get.bind fun _ =>
    (aside_deliver _ _ _).tryCatch fun _ => aside_write _

end Aside
end System
end LogThrottle
