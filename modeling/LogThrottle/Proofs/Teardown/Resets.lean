import LogThrottle.Proofs.System.Beside

/-! Resets where failures do not hang on how often a sink or a stopwatch was called before. What a reset
writes can then be read off the system: the digest, the report that it failed, or a notice that the report
failed too. -/
namespace LogThrottle

/-- A new sink fails on chosen lines, and a new stopwatch on every reading or on none. -/
def Action.Steadfast : Action → Prop
  | .addSink _ fault => ∀ n line, fault n line = fault 0 line
  | .addStopwatch _ fault => ∀ n, fault n = fault 0
  | _ => True

namespace System
open Call

/-- Sinks fail on chosen lines, and stopwatches on every reading or on none. -/
structure Steadfast (s : System) : Prop where
  sink : ∀ k n line, (s.sink k).fault n line = (s.sink k).fault 0 line
  stopwatch : ∀ w n, (s.stopwatch w).fault n = (s.stopwatch w).fault 0

/-- What a stopwatch shows, if it can be read. -/
def reading (s : System) (w : StopwatchId) : Except Fault UInt64 :=
  { s.stopwatch w with reads := 0 }.read.1.map Duration.clockMillis

/-- What a failed reset writes. -/
def failureEntries (s : System) (t : ThrottleId) (f : Fault) : List Entry :=
  let k := (s.logger (s.throttle t).logger).sink
  let line : Line := ⟨.warn, failureMessage (s.throttle t).topic f⟩
  match (s.sink k).fault 0 line with
  | none => [.line (.failure t) k line]
  | some _ => [.notice .resetFailed]

/-- What a reset writes. -/
def resetEntries (s : System) (t : ThrottleId) : List Entry :=
  let x := (s.throttle t).limiter
  let k := (s.logger (s.throttle t).logger).sink
  if x.withheld (s.limit t) = 0 then [] else
    match s.reading (s.logger (s.throttle t).logger).stopwatch with
    | .error f => s.failureEntries t f
    | .ok now =>
      let d : Digest := ⟨(s.throttle t).topic, x.withheld (s.limit t), x.sinceMark now⟩
      match (s.sink k).fault 0 ⟨d.topic.voice, d.text⟩ with
      | none => [.line (.digest t d) k ⟨d.topic.voice, d.text⟩]
      | some f => s.failureEntries t f

/-- How often a reset offers a line to the sink and reads the stopwatch, and how many digests it counts. -/
structure Effort where
  offers : Nat := 0
  reads : Nat := 0
  digests : UInt64 := 0

def effort (s : System) (t : ThrottleId) : Effort :=
  let x := (s.throttle t).limiter
  let k := (s.logger (s.throttle t).logger).sink
  if x.withheld (s.limit t) = 0 then {} else
    match s.reading (s.logger (s.throttle t).logger).stopwatch with
    | .error _ => { offers := 1, reads := 1 }
    | .ok now =>
      let d : Digest := ⟨(s.throttle t).topic, x.withheld (s.limit t), x.sinceMark now⟩
      match (s.sink k).fault 0 ⟨d.topic.voice, d.text⟩ with
      | none => { offers := 1, reads := 1, digests := 1 }
      | some _ => { offers := 2, reads := 1 }

/-- Digests counted in the tally of a logger. -/
def credited (l : LoggerId) (n : UInt64) (s : System) : System :=
  changeTally l (fun x => { x with digests := x.digests + n }) s

def written (es : List Entry) (s : System) : System := { s with journal := s.journal ++ es.toArray }

/-- What the reset of a throttle leaves. -/
def afterReset (s : System) (t : ThrottleId) : System :=
  let l := (s.throttle t).logger
  written (s.resetEntries t) <| credited l (s.effort t).digests <|
    clocked (s.logger l).stopwatch (s.effort t).reads <|
      asked (s.logger l).sink (s.effort t).offers <| setLimiter t .cleared s

variable {s s' : System} {t : ThrottleId}

theorem Equipped.steadfast (h : Equipped s s') (steadfast : Steadfast s) : Steadfast s' where
  sink k n line := by
    rw [h.sink_fault]
    exact steadfast.sink k n line
  stopwatch w n := by
    rw [h.stopwatch_fault]
    exact steadfast.stopwatch w n

/-- What a reset writes and does hangs on its own throttle, and on the sink and the stopwatch of its logger. -/
private theorem reset_congr (topic : (s'.throttle t).topic = (s.throttle t).topic)
    (own : (s'.throttle t).logger = (s.throttle t).logger)
    (limiter : (s'.throttle t).limiter = (s.throttle t).limiter)
    (sink : ∀ k, { s'.sink k with calls := 0 } = { s.sink k with calls := 0 })
    (stopwatch : ∀ w, { s'.stopwatch w with reads := 0 } = { s.stopwatch w with reads := 0 })
    (logger : ∀ l, (s'.logger l).settings = (s.logger l).settings) :
    s'.resetEntries t = s.resetEntries t ∧ s'.effort t = s.effort t := by
  have fault (k : SinkId) : (s'.sink k).fault = (s.sink k).fault := (congrArg Sink.fault (sink k) :)
  have toSink (l : LoggerId) : (s'.logger l).sink = (s.logger l).sink :=
    (congrArg Logger.sink (logger l) :)
  have quota (l : LoggerId) : (s'.logger l).quota = (s.logger l).quota :=
    (congrArg Logger.quota (logger l) :)
  have clock (l : LoggerId) : (s'.logger l).stopwatch = (s.logger l).stopwatch :=
    (congrArg Logger.stopwatch (logger l) :)
  have failure : s'.failureEntries t = s.failureEntries t := by
    funext f
    rw [failureEntries, topic, own, toSink, fault, failureEntries]
  constructor
  · rw [resetEntries, reading, limit, topic, own, limiter, toSink, quota, clock, stopwatch, fault, failure,
      resetEntries, reading, limit]
  · rw [effort, reading, limit, topic, own, limiter, toSink, quota, clock, stopwatch, fault, effort, reading, limit]

theorem Equipped.resetEntries_eq (h : Equipped s s') (topic : (s'.throttle t).topic = (s.throttle t).topic)
    (own : (s'.throttle t).logger = (s.throttle t).logger)
    (limiter : (s'.throttle t).limiter = (s.throttle t).limiter) :
    s'.resetEntries t = s.resetEntries t :=
  (reset_congr topic own limiter h.sink h.stopwatch h.logger).1

private theorem Told.reset_eq {es : List Entry} (h : Told es s s')
    (limiter : (s'.throttle t).limiter = (s.throttle t).limiter) :
    s'.resetEntries t = s.resetEntries t ∧ s'.effort t = s.effort t :=
  reset_congr (h.topic_eq t) (h.logger_eq t) limiter h.sink h.stopwatch fun l =>
    (congrArg Logger.settings (h.logger l) :)

theorem Told.resetEntries_eq {es : List Entry} (h : Told es s s')
    (limiter : (s'.throttle t).limiter = (s.throttle t).limiter) : s'.resetEntries t = s.resetEntries t :=
  (h.reset_eq limiter).1

theorem Told.effort_eq {es : List Entry} (h : Told es s s')
    (limiter : (s'.throttle t).limiter = (s.throttle t).limiter) : s'.effort t = s.effort t :=
  (h.reset_eq limiter).2

theorem resetEntries_of_cleared (cleared : (s.throttle t).limiter = .cleared) : s.resetEntries t = [] := by
  rw [resetEntries, cleared]
  rfl

@[simp] theorem asked_zero (k : SinkId) (s : System) : asked k 0 s = s := by
  have none : (s.sinks.modify k fun x => { x with calls := x.calls + 0 }) = s.sinks := modify_of_same _ k fun _ => rfl
  rw [asked, none]

@[simp] theorem clocked_zero (w : StopwatchId) (s : System) : clocked w 0 s = s := by
  have none : (s.stopwatches.modify w fun x => { x with reads := x.reads + 0 }) = s.stopwatches :=
    modify_of_same _ w fun _ => rfl
  rw [clocked, none]

@[simp] theorem credited_zero (l : LoggerId) (s : System) : credited l 0 s = s := by
  rw [credited, changeTally, modify_of_same s.loggers l fun x => by simp]

@[simp] theorem written_nil (s : System) : written [] s = s := by rw [written, Array.append_empty]

theorem write_eq_written (e : Entry) (s : System) : write e s = written [e] s := by
  rw [write, Array.push_eq_append, written]

theorem written_append (es fs : List Entry) (s : System) : written (es ++ fs) s = written fs (written es s) := by
  rw [written, written, ← List.append_toArray, ← Array.append_assoc, written]

theorem asked_asked (k : SinkId) (m n : Nat) (s : System) : asked k m (asked k n s) = asked k (n + m) s := by
  have twice : (s.sinks.modify k fun x => { x with calls := x.calls + n }).modify k
      (fun x => { x with calls := x.calls + m }) = s.sinks.modify k fun x => { x with calls := x.calls + (n + m) } := by
    apply Array.ext_getElem?
    intro i
    simp only [Array.getElem?_modify]
    split
    · simp only [Option.map_map, Function.comp_def, Nat.add_assoc]
    · rfl
  simp only [asked, twice]

/-- A failed reset is reported to the sink, if that takes the report. -/
private theorem exec_reportFailure (h : Steadfast s) (t : ThrottleId) (f : Fault) : (reportFailure t f).exec s =
    (.ok (), written (s.failureEntries t f) (asked (s.logger (s.throttle t).logger).sink 1 s)) := by
  simp only [reportFailure, failureEntries, exec_bind, exec_get, exec_tryCatch, exec_modify]
  generalize (s.logger (s.throttle t).logger).sink = k
  generalize (⟨.warn, failureMessage (s.throttle t).topic f⟩ : Line) = line
  rw [exec_deliver, h.sink k (s.sink k).calls line]
  cases (s.sink k).fault 0 line <;> rfl

private theorem exec_readClock_steadfast (h : Steadfast s) (w : StopwatchId) :
    (readClock w).exec s = (s.reading w, clocked w 1 s) := by
  have same : ({ s.stopwatch w with reads := 0 } : Stopwatch).read.1 = (s.stopwatch w).read.1 := by
    simp only [Stopwatch.read, h.stopwatch w (s.stopwatch w).reads]
    split
    · rfl
    · cases (s.stopwatch w).fault 0 <;> rfl
  rw [exec_readClock, reading, same]

/-- A reset that failed after the stopwatch was read and some lines were offered is reported as it would be in the
first system. -/
private theorem exec_reportFailure_after (h : Steadfast s) (t : ThrottleId) (f : Fault) (n : Nat) :
    let k := (s.logger (s.throttle t).logger).sink
    let w := (s.logger (s.throttle t).logger).stopwatch
    (reportFailure t f).exec (clocked w 1 (asked k n (setLimiter t .cleared s))) =
      (.ok (), written (s.failureEntries t f) (clocked w 1 (asked k (n + 1) (setLimiter t .cleared s)))) := by
  intro k w
  have told : Told [] s (setLimiter t .cleared s) := .setLimiter s t .cleared
  have outside := (wrote_asked k n (setLimiter t .cleared s)).trans (wrote_clocked w 1 _)
  have steadfast : Steadfast (clocked w 1 (asked k n (setLimiter t .cleared s))) :=
    ((beside_setLimiter s t .cleared).trans outside.beside).steadfast h
  have all := told.trans outside.told
  have sink : (s.logger (s.throttle t).logger).sink = k := rfl
  have outlet := (all.sink_eq t).trans sink
  have entries : (clocked w 1 (asked k n (setLimiter t .cleared s))).failureEntries t f = s.failureEntries t f := by
    rw [failureEntries, outlet, all.topic_eq, (congrArg Sink.fault (all.sink k) :), failureEntries]
  rw [exec_reportFailure steadfast, entries, outlet, ← asked_asked]
  rfl

/-- A reset never fails as a whole, and leaves what can be read off the system. -/
theorem exec_resetOrReport (h : Steadfast s) (t : ThrottleId) :
    (resetOrReport t).exec s = (.ok (), s.afterReset t) := by
  have steadfast : Steadfast (setLimiter t .cleared s) := (beside_setLimiter s t _).steadfast h
  have unmoved (w : StopwatchId) : (setLimiter t .cleared s).reading w = s.reading w := rfl
  simp only [resetOrReport, exec_tryCatch, exec_discard, reset, exec_bind, exec_get, exec_modify, afterReset]
  by_cases none : (s.throttle t).limiter.withheld (s.limit t) = 0
  · rw [effort, resetEntries, if_pos none, if_pos none]
    rw [limit] at none
    simp only [none, if_true, exec_pure, asked_zero, clocked_zero, credited_zero, written_nil]
    rfl
  · rw [effort, resetEntries, if_neg none, if_neg none]
    rw [limit] at none
    simp only [none, if_false, exec_bind, exec_readClock_steadfast steadfast, unmoved]
    cases shown : s.reading (s.logger (s.throttle t).logger).stopwatch with
    | error f =>
      have reported := exec_reportFailure_after h t f 0
      simp only [asked_zero] at reported
      rw [credited_zero]
      exact reported
    | ok now =>
      have takes (line : Line) (m : Nat) : ((clocked (s.logger (s.throttle t).logger).stopwatch 1
          (setLimiter t .cleared s)).sink (s.logger (s.throttle t).logger).sink).fault m line =
          (s.sink (s.logger (s.throttle t).logger).sink).fault 0 line := h.sink _ m line
      let d : Digest := ⟨(s.throttle t).topic, (s.throttle t).limiter.withheld (s.limit t),
        (s.throttle t).limiter.sinceMark now⟩
      cases answer : (s.sink (s.logger (s.throttle t).logger).sink).fault 0 ⟨d.topic.voice, d.text⟩ with
      | none =>
        simp only [d, limit] at answer
        simp only [exec_deliver, takes, limit, answer]
        rfl
      | some f =>
        simp only [d, limit] at answer
        simp only [exec_deliver, takes, limit, answer, credited_zero]
        exact exec_reportFailure_after h t f 1

theorem Told.credited (s : System) (l : LoggerId) (n : UInt64) : Told [] s (credited l n s) := by
  refine { refl s with loggers := size_loggers_changeTally .., logger := fun i => ?_ }
  rw [System.credited, logger_changeTally]
  split <;> rfl

theorem wrote_written (es : List Entry) (s : System) : Wrote es s (written es s) :=
  { Wrote.refl s with journal := by simp [written] }

theorem told_afterReset (s : System) (t : ThrottleId) : Told (s.resetEntries t) s (s.afterReset t) := by
  have asking := (Told.setLimiter s t .cleared).trans
    (wrote_asked (s.logger (s.throttle t).logger).sink (s.effort t).offers _).told
  have reading := asking.trans
    (wrote_clocked (s.logger (s.throttle t).logger).stopwatch (s.effort t).reads _).told
  exact (reading.trans (.credited _ (s.throttle t).logger (s.effort t).digests)).trans (wrote_written _ _).told

theorem Steadfast.afterReset (h : Steadfast s) (t : ThrottleId) : Steadfast (s.afterReset t) := by
  have equipped := beside_resetOrReport t s
  rw [exec_resetOrReport h] at equipped
  exact equipped.steadfast h

/-- A pass over different throttles writes what the reset of each would have written before the pass. -/
theorem resetAll_steadfast (h : Steadfast s) {ts : List ThrottleId} (distinct : ts.Nodup) :
    ∃ s', (resetAll ts).exec s = (.ok (), s') ∧ Told (ts.flatMap s.resetEntries) s s' := by
  refine resetAll_told (fun {s} steadfast t => ?_) (fun told => told.resetEntries_eq) h distinct
  exact ⟨s.afterReset t, exec_resetOrReport steadfast t, steadfast.afterReset t, told_afterReset s t⟩

private theorem steadfast_move (h : Steadfast s) (w : StopwatchId) (m : Stopwatch.Move) :
    Steadfast (s.after (.move w m)) := by
  rw [after_move]
  refine ⟨h.sink, fun i n => ?_⟩
  rw [stopwatch, getD_setIfInBounds]
  split
  · rw [Stopwatch.fault_move]
    exact h.stopwatch w n
  · exact h.stopwatch i n

theorem steadfast_after (h : Steadfast s) {a : Action} (steady : a.Steadfast) : Steadfast (s.after a) := by
  cases a with
  | addSink style fault =>
    refine ⟨fun k => ?_, h.stopwatch⟩
    rw [sink_addSink]
    split
    · exact steady
    · exact h.sink k
  | addStopwatch reading fault =>
    refine ⟨h.sink, fun w => ?_⟩
    rw [stopwatch_addStopwatch]
    split
    · exact steady
    · exact h.stopwatch w
  | addCounter | openRoster | guard | share => exact ⟨h.sink, h.stopwatch⟩
  | build p =>
    rw [after_build]
    cases p.logger <;> exact ⟨h.sink, h.stopwatch⟩
  | move w m => exact steadfast_move h w m
  | lookup | log | logThrough | emit | attempt | enrol | flush | fire | resetTally =>
    exact (beside_of_inward rfl s).steadfast h
  | shutdown r => exact (closing_equipped.shutdown r s).steadfast h
  | release x => exact (closing_equipped.release x s).steadfast h

theorem steadfast_run {as : List Action} (steady : ∀ a ∈ as, a.Steadfast) :
    Steadfast (System.run {} as) := by
  induction as using List.reverseRecOn with
  | nil => exact ⟨fun _ _ _ => rfl, fun _ _ => rfl⟩
  | append_singleton as a ih =>
    rw [run_snoc]
    exact steadfast_after (ih fun b hb => steady b (List.mem_append_left _ hb))
      (steady a (List.mem_append_right _ List.mem_cons_self))

end System
end LogThrottle
