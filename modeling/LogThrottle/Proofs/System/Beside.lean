import LogThrottle.Proofs.System.Frames
import LogThrottle.Proofs.System.Pairing
import LogThrottle.Proofs.System.Runs
import LogThrottle.Proofs.System.Ticking

/-! Systems with the same surroundings. Sinks, stopwatches, counters, loggers, holders and rosters are the
same in both but for what happened to them: calls, tallies, catalogues, slots and epochs. Nothing that
happens to throttles changes the surroundings. -/
namespace LogThrottle

/-- A logger but for what happens to it. -/
def Logger.settings (x : Logger) : Logger := { x with tally := {}, catalogue := {} }

namespace Stopwatch

theorem fault_move (x : Stopwatch) (m : Move) : (x.move m).2.fault = x.fault := by
  cases m with
  | set d =>
    simp only [move, set]
    split <;> rfl
  | advance d =>
    simp only [move, advance]
    split
    · rfl
    · cases x.reading.add? d <;> rfl

/-- A stopwatch moves alike, however often it was read. -/
theorem move_unread (x : Stopwatch) (m : Move) :
    { x with reads := 0 }.move m = ((x.move m).1, { (x.move m).2 with reads := 0 }) := by
  cases m with
  | set d =>
    simp only [move, set]
    split <;> rfl
  | advance d =>
    simp only [move, advance]
    split
    · rfl
    · cases x.reading.add? d <;> rfl

end Stopwatch

/-- Nothing is made, moved, held or let go, and no roster is closed. -/
def Action.inward : Action → Bool
  | lookup .. | log .. | logThrough .. | emit .. | attempt _ | enrol .. | flush _ | fire .. | resetTally _ => true
  | _ => false

namespace System
open Call

/-- The same sinks, stopwatches, counters and loggers. -/
structure Equipped (s s' : System) : Prop where
  sinks : s'.sinks.size = s.sinks.size
  sink : ∀ k, { s'.sink k with calls := 0 } = { s.sink k with calls := 0 }
  stopwatches : s'.stopwatches.size = s.stopwatches.size
  stopwatch : ∀ w, { s'.stopwatch w with reads := 0 } = { s.stopwatch w with reads := 0 }
  counters : s'.counters.size = s.counters.size
  counter : ∀ c, (s'.counter c).fault = (s.counter c).fault
  loggers : s'.loggers.size = s.loggers.size
  logger : ∀ l, (s'.logger l).settings = (s.logger l).settings

/-- The same holders and rosters too. -/
structure Beside (s s' : System) : Prop extends Equipped s s' where
  holders : s'.holders = s.holders
  rosters : s'.rosters.size = s.rosters.size
  closed : ∀ r, (s'.roster r).closed = (s.roster r).closed

namespace Equipped
variable {s s' s'' : System}

theorem refl (s : System) : Equipped s s :=
  ⟨rfl, fun _ => rfl, rfl, fun _ => rfl, rfl, fun _ => rfl, rfl, fun _ => rfl⟩

theorem symm (h : Equipped s s') : Equipped s' s where
  sinks := h.sinks.symm
  sink k := (h.sink k).symm
  stopwatches := h.stopwatches.symm
  stopwatch w := (h.stopwatch w).symm
  counters := h.counters.symm
  counter c := (h.counter c).symm
  loggers := h.loggers.symm
  logger l := (h.logger l).symm

theorem trans (h : Equipped s s') (h' : Equipped s' s'') : Equipped s s'' where
  sinks := h'.sinks.trans h.sinks
  sink k := (h'.sink k).trans (h.sink k)
  stopwatches := h'.stopwatches.trans h.stopwatches
  stopwatch w := (h'.stopwatch w).trans (h.stopwatch w)
  counters := h'.counters.trans h.counters
  counter c := (h'.counter c).trans (h.counter c)
  loggers := h'.loggers.trans h.loggers
  logger l := (h'.logger l).trans (h.logger l)

section Parts
variable (h : Equipped s s')
include h

theorem sink_style (k : SinkId) : (s'.sink k).style = (s.sink k).style := (congrArg Sink.style (h.sink k) :)

theorem sink_fault (k : SinkId) : (s'.sink k).fault = (s.sink k).fault := (congrArg Sink.fault (h.sink k) :)

theorem stopwatch_reading (w : StopwatchId) : (s'.stopwatch w).reading = (s.stopwatch w).reading :=
  (congrArg Stopwatch.reading (h.stopwatch w) :)

theorem stopwatch_broken (w : StopwatchId) : (s'.stopwatch w).broken = (s.stopwatch w).broken :=
  (congrArg Stopwatch.broken (h.stopwatch w) :)

theorem stopwatch_fault (w : StopwatchId) : (s'.stopwatch w).fault = (s.stopwatch w).fault :=
  (congrArg Stopwatch.fault (h.stopwatch w) :)

theorem logger_roster (l : LoggerId) : (s'.logger l).roster = (s.logger l).roster :=
  (congrArg Logger.roster (h.logger l) :)

theorem logger_sink (l : LoggerId) : (s'.logger l).sink = (s.logger l).sink :=
  (congrArg Logger.sink (h.logger l) :)

theorem logger_stopwatch (l : LoggerId) : (s'.logger l).stopwatch = (s.logger l).stopwatch :=
  (congrArg Logger.stopwatch (h.logger l) :)

theorem logger_counter (l : LoggerId) : (s'.logger l).counter = (s.logger l).counter :=
  (congrArg Logger.counter (h.logger l) :)

theorem logger_quota (l : LoggerId) : (s'.logger l).quota = (s.logger l).quota :=
  (congrArg Logger.quota (h.logger l) :)

theorem logger_capacity (l : LoggerId) : (s'.logger l).capacity = (s.logger l).capacity :=
  (congrArg Logger.capacity (h.logger l) :)

theorem calm (calm : Calm s) : Calm s' where
  sink k := by
    rw [h.sink_fault]
    exact calm.sink k
  stopwatch w := by
    rw [h.stopwatch_broken, h.stopwatch_fault]
    exact calm.stopwatch w
  counter c := by
    rw [h.counter]
    exact calm.counter c

end Parts
end Equipped

namespace Beside
variable {s s' s'' : System}

theorem refl (s : System) : Beside s s := ⟨.refl s, rfl, rfl, fun _ => rfl⟩

theorem symm (h : Beside s s') : Beside s' s :=
  ⟨h.toEquipped.symm, h.holders.symm, h.rosters.symm, fun r => (h.closed r).symm⟩

theorem trans (h : Beside s s') (h' : Beside s' s'') : Beside s s'' :=
  ⟨h.toEquipped.trans h'.toEquipped, h'.holders.trans h.holders, h'.rosters.trans h.rosters,
    fun r => (h'.closed r).trans (h.closed r)⟩

theorem alive_eq (h : Beside s s') (r : RosterId) : s'.alive r = s.alive r := by
  rw [alive, h.holders, alive]

theorem loggerHeld_iff (h : Beside s s') (l : LoggerId) : s'.loggerHeld l ↔ s.loggerHeld l := by
  rw [loggerHeld, h.holders, loggerHeld]

end Beside

section Changes
variable {s s' : System}

theorem Wrote.beside {es : List Entry} (h : Wrote es s s') : Beside s s' where
  sinks := h.sizes.1
  sink := h.sink
  stopwatches := h.sizes.2.1
  stopwatch := h.stopwatch
  counters := h.sizes.2.2
  counter c := (congrArg Counter.fault (h.counter c) :)
  loggers := by rw [h.loggers]
  logger l := by rw [System.logger, h.loggers, System.logger]
  holders := h.holders
  rosters := by rw [h.rosters]
  closed r := by rw [roster, h.rosters, roster]

theorem beside_setLimiter (s : System) (t : ThrottleId) (x : Limiter) : Beside s (setLimiter t x s) :=
  { Beside.refl s with }

theorem beside_setStamp (s : System) (t : ThrottleId) (e : UInt64) : Beside s (setStamp t e s) :=
  { Beside.refl s with }

theorem beside_changeTally (s : System) (l : LoggerId) (f : Tally → Tally) :
    Beside s (changeTally l f s) := by
  refine { Beside.refl s with loggers := size_loggers_changeTally .., logger := fun i => ?_ }
  rw [logger_changeTally]
  split <;> rfl

theorem beside_setCatalogue (s : System) (l : LoggerId) (c : Catalogue) :
    Beside s (setCatalogue l c s) := by
  refine { Beside.refl s with loggers := size_loggers_setCatalogue .., logger := fun i => ?_ }
  rw [logger_setCatalogue]
  split <;> rfl

theorem beside_changeRoster (s : System) (r : RosterId) {f : Roster → Roster}
    (closed : ∀ x, (f x).closed = x.closed) : Beside s (changeRoster r f s) := by
  refine { Beside.refl s with rosters := size_rosters_changeRoster .., closed := fun i => ?_ }
  rw [roster_changeRoster]
  split
  · exact closed _
  · rfl

theorem beside_drained (s : System) (r : RosterId) : Beside s (drained r s) :=
  (beside_changeRoster s r (f := Roster.drain) fun _ => rfl).trans (wrote_write _ _).beside

theorem beside_enrolled (s : System) (r : RosterId) (t : ThrottleId) : Beside s (enrolled r t s) :=
  (beside_changeRoster s r (f := (·.enrol (s.period t) t)) fun _ => rfl).trans (beside_setStamp _ t _)

theorem beside_registered (s : System) (l : LoggerId) (topic : Topic) :
    Beside s (registered l topic s) := by
  have pushed : Beside s { s with throttles := s.throttles.push { topic, logger := l } } :=
    { Beside.refl s with }
  exact pushed.trans (beside_setCatalogue _ l _)

theorem beside_ticked (s : System) (t : ThrottleId) (severity : Severity) : Beside s (ticked t severity s) := by
  have counted := (beside_setLimiter s t (s.verdict t).2).trans
    (beside_changeTally _ (s.throttle t).logger (Decision.count (s.verdict t).1))
  rw [ticked]
  split
  · refine counted.trans { Beside.refl _ with counters := Array.size_setIfInBounds, counter := fun i => ?_ }
    rw [counter_countUp]
    split
    · rename_i own
      exact own.1 ▸ rfl
    · rfl
  · exact counted

end Changes

/-- A counter that is asked to count fails as before. -/
private theorem increment_fault (x : Counter) (name : String) :
    (x.increment name).2.fault = x.fault := by
  rw [Counter.increment]
  split <;> rfl

theorem resetting_beside : Resetting (fun _ => True) Beside where
  refl := .refl
  trans h h' := h.trans h'
  wrote _ wrote := wrote.beside
  asked s c name := by
    refine { Beside.refl s with counters := Array.size_setIfInBounds, counter := fun i => ?_ }
    rw [counter, getD_setIfInBounds]
    split
    · rename_i own
      exact own.1 ▸ increment_fault _ name
    · rfl
  ofReset _ := trivial
  countDigest s l := beside_changeTally s l _

section Outside

private theorem judging_beside (t : ThrottleId) : Judging t (fun _ => True) Beside where
  toFrame := resetting_beside.toFrame
  touch s x := beside_setLimiter s t x
  event _ _ := trivial
  countAllowed s l := beside_changeTally s l _
  countSuppressed s l := beside_changeTally s l _

theorem beside_attempt (t : ThrottleId) : Keeps Beside (attempt t) :=
  (judging_beside t).attempt (judging_beside t).touch

theorem beside_resetOrReport (t : ThrottleId) : Keeps Beside (resetOrReport t) :=
  resetting_beside.resetOrReport fun s => beside_setLimiter s t _

theorem beside_resetAll (ts : List ThrottleId) : Keeps Beside (resetAll ts) :=
  resetting_beside.resetAll fun t _ s => beside_setLimiter s t _

theorem beside_flush (r : RosterId) : Keeps Beside (flush r) :=
  resetting_beside.flush (beside_drained · r) fun t s => beside_setLimiter s t _

private theorem beside_enrol (r : RosterId) (t : ThrottleId) : Keeps Beside (enrol r t) :=
  (judging_beside t).enrol trivial (beside_enrolled · r t)

theorem searching_beside : Searching Beside where
  toChain := resetting_beside.toChain
  flush := beside_flush
  overflowed s := (wrote_write _ s).beside
  warn _ _ _ := resetting_beside.deliver trivial
  enrol := beside_enrol
  push s _ _ := { Beside.refl s with }
  setCatalogue := beside_setCatalogue
  countOverflow s l := beside_changeTally s l _

/-- Whatever is logged, sought, enrolled, flushed or reset, the surroundings stay. -/
theorem beside_of_inward {a : Action} (inward : a.inward = true) (s : System) : Beside s (s.after a) := by
  have seeks := searching_beside
  have logs (t : ThrottleId) (severity : Severity) (args : List Argument) :
      Keeps Beside (logThrough t severity args) :=
    (judging_beside t).logThrough severity args ((judging_beside t).join fun r => beside_enrol r t)
  cases a with
  | lookup l topic => exact seeks.lookup l topic s
  | log l severity template args => exact seeks.bind (seeks.lookup l _) (fun t => logs t severity args) s
  | logThrough t severity args => exact logs t severity args s
  | emit t args => exact seeks.bind seeks.get (fun _ => logs t _ args) s
  | attempt t => exact beside_attempt t s
  | enrol r t => exact beside_enrol r t s
  | flush r => exact beside_flush r s
  | fire r period => exact seeks.bind seeks.get (fun _ => beside_resetAll _) s
  | resetTally l => exact beside_changeTally s l fun _ => {}
  | _ => cases inward

theorem closing_equipped : Closing Equipped where
  refl := .refl
  trans h h' := h.trans h'
  flush r s := (beside_flush r s).toEquipped
  close s _ := { Equipped.refl s with }
  cancelJobs s _ := { Equipped.refl s with }
  letGo s _ := { Equipped.refl s with }

end Outside

namespace Beside
variable {s s' : System}

theorem keeps {α β : Type} {c : Call α} {d : Call β} (h : Beside s s') (hc : Keeps Beside c)
    (hd : Keeps Beside d) : Beside (c.exec s).2 (d.exec s').2 :=
  (hc s).symm.trans (h.trans (hd s'))

theorem changeRoster (h : Beside s s') (r : RosterId) {f : Roster → Roster}
    (closed : ∀ x y, y.closed = x.closed → (f y).closed = (f x).closed) :
    Beside (changeRoster r f s) (System.changeRoster r f s') := by
  refine { h with rosters := ?_, closed := fun i => ?_ }
  · rw [size_rosters_changeRoster, size_rosters_changeRoster, h.rosters]
  · rw [roster_changeRoster, roster_changeRoster, h.rosters]
    split
    · exact closed _ _ (h.closed i)
    · exact h.closed i

theorem hold (h : Beside s s') (x : Holder) :
    Beside { s with holders := x :: s.holders } { s' with holders := x :: s'.holders } :=
  { h with holders := congrArg (x :: ·) h.holders }

theorem letGo (h : Beside s s') (x : Holder) :
    Beside { s with holders := s.holders.erase x } { s' with holders := s'.holders.erase x } :=
  { h with holders := congrArg (·.erase x) h.holders }

theorem closing (r : RosterId) : ClosingBoth r Beside where
  holders h := h.holders
  closed h := h.closed r
  flush h := h.keeps (beside_flush r) (beside_flush r)
  close h := h.changeRoster r fun _ _ _ => rfl
  cancelJobs h := h.changeRoster r fun _ _ same => same
  letGo x h := h.letGo x

private theorem addSink (h : Beside s s') (x : Sink) :
    Beside { s with sinks := s.sinks.push x } { s' with sinks := s'.sinks.push x } := by
  refine { h with sinks := by simp only [Array.size_push, h.sinks], sink := fun k => ?_ }
  rw [sink, sink, getD_push, getD_push, h.sinks]
  split
  · rfl
  · exact h.sink k

private theorem addStopwatch (h : Beside s s') (x : Stopwatch) :
    Beside { s with stopwatches := s.stopwatches.push x } { s' with stopwatches := s'.stopwatches.push x } := by
  refine { h with stopwatches := by simp only [Array.size_push, h.stopwatches], stopwatch := fun w => ?_ }
  rw [stopwatch, stopwatch, getD_push, getD_push, h.stopwatches]
  split
  · rfl
  · exact h.stopwatch w

private theorem addCounter (h : Beside s s') (x : Counter) :
    Beside { s with counters := s.counters.push x } { s' with counters := s'.counters.push x } := by
  refine { h with counters := by simp only [Array.size_push, h.counters], counter := fun c => ?_ }
  rw [counter, counter, getD_push, getD_push, h.counters]
  split
  · rfl
  · exact h.counter c

private theorem openRoster (h : Beside s s') : Beside (s.after .openRoster) (s'.after .openRoster) := by
  have owners : (⟨.owner, s'.rosters.size⟩ :: s'.holders : List Holder) =
      ⟨.owner, s.rosters.size⟩ :: s.holders := by rw [h.rosters, h.holders]
  refine { h with holders := owners, rosters := ?_, closed := fun r => ?_ }
  · exact (Array.size_push ..).trans (h.rosters ▸ (Array.size_push ..).symm)
  · rw [roster_openRoster, roster_openRoster, h.rosters]
    split
    · rfl
    · exact h.closed r

private theorem build (h : Beside s s') (p : Plan) : Beside (s.after (.build p)) (s'.after (.build p)) := by
  rw [after_build, after_build]
  cases p.logger with
  | error e => exact h
  | ok x =>
    have clients : (⟨.logger s'.loggers.size, p.roster⟩ :: s'.holders : List Holder) =
        ⟨.logger s.loggers.size, p.roster⟩ :: s.holders := by rw [h.loggers, h.holders]
    refine { h with holders := clients, loggers := ?_, logger := fun l => ?_ }
    · exact (Array.size_push ..).trans ((congrArg Nat.succ h.loggers).trans (Array.size_push ..).symm)
    · have read (s : System) : (s.loggers.push x).getD l default =
          if l = s.loggers.size then x else s.logger l := getD_push ..
      refine (congrArg Logger.settings (read s')).trans (.trans ?_ (congrArg Logger.settings (read s)).symm)
      rw [h.loggers]
      split
      · rfl
      · exact h.logger l

private theorem move (h : Beside s s') (w : StopwatchId) (m : Stopwatch.Move) :
    Beside (s.after (.move w m)) (s'.after (.move w m)) := by
  have unread (x : Stopwatch) : { (x.move m).2 with reads := 0 } = ({ x with reads := 0 }.move m).2 := by
    rw [x.move_unread m]
  have read (s : System) (i : StopwatchId) : System.stopwatch { s with
      stopwatches := s.stopwatches.setIfInBounds w ((s.stopwatch w).move m).2 } i =
      if w = i ∧ i < s.stopwatches.size then ((s.stopwatch w).move m).2 else s.stopwatch i :=
    getD_setIfInBounds ..
  rw [after_move, after_move]
  refine { h with
    stopwatches := by simp only [Array.size_setIfInBounds, h.stopwatches], stopwatch := fun i => ?_ }
  rw [read, read, h.stopwatches]
  split
  · rw [unread, unread, h.stopwatch w]
  · exact h.stopwatch i

/-- The surroundings change alike. -/
theorem after (h : Beside s s') (a : Action) : Beside (s.after a) (s'.after a) := by
  cases a with
  | addSink style fault => exact h.addSink _
  | addStopwatch reading fault => exact h.addStopwatch _
  | addCounter fault => exact h.addCounter _
  | openRoster => exact h.openRoster
  | build p => exact h.build p
  | move w m => exact h.move w m
  | lookup | log | logThrough | emit | attempt | enrol | flush | fire | resetTally =>
    exact (beside_of_inward rfl s).symm.trans (h.trans (beside_of_inward rfl s'))
  | shutdown r => exact ((closing r).shutdown h).2
  | guard r => exact h.hold _
  | share l =>
    have clients : (⟨.logger l, (s'.logger l).roster⟩ :: s'.holders : List Holder) =
        ⟨.logger l, (s.logger l).roster⟩ :: s.holders := by rw [h.logger_roster, h.holders]
    exact { h with holders := clients }
  | release x => exact ((closing x.roster).release h).2

end Beside
end System
end LogThrottle
