import LogThrottle.Proofs.Failures.Resemblance
import LogThrottle.Proofs.System.Executions

/-! Calls on two systems that limit alike. All that a call does to limiters, rosters and catalogues it
does before it asks a sink, a counter or an argument, so that their failures come too late to matter. -/
namespace LogThrottle.System
open Call
variable {s s' : System}

theorem together_readClock (h : Resembles s s') (w : StopwatchId) :
    Together Resembles (readClock w) (readClock w) s s' := by
  simp only [readClock, together_get_bind, together_modify_bind, h.stopwatch_eq]
  refine ⟨by simp only [exec_map, exec_ofExcept], ?_⟩
  simp only [exec_map, exec_ofExcept]
  exact { h with stopwatches := by rw [h.stopwatches] }

theorem together_moveClock (h : Resembles s s') (w : StopwatchId) (m : Stopwatch.Move) :
    Together Resembles (moveClock w m) (moveClock w m) s s' := by
  simp only [moveClock, together_get_bind, together_modify_bind, h.stopwatch_eq]
  refine ⟨by simp only [exec_ofExcept], ?_⟩
  simp only [exec_ofExcept]
  exact { h with stopwatches := by rw [h.stopwatches] }

theorem together_attempt (h : Resembles s s') (t : ThrottleId) :
    Together Resembles (attempt t) (attempt t) s s' := by
  have bumped := h.setLimiter t (s.throttle t).limiter.bump
  simp only [attempt, together_get_bind, together_modify_bind, h.throttle_eq, h.logger_quota,
    h.logger_stopwatch]
  cases (s.throttle t).limiter.bump.course (s.logger (s.throttle t).logger).quota.limit
    (s.throttle t).limiter.ordinal with
  | pass => exact ⟨rfl, bumped⟩
  | hold => exact ⟨rfl, bumped⟩
  | mark =>
    dsimp only
    split
    · exact ⟨rfl, bumped⟩
    · exact (together_readClock bumped _).bind fun read => ⟨rfl, read.setLimiter t _⟩

/-- The limiter is cleared and the stopwatch read before the digest is offered. -/
theorem resembles_reset (h : Resembles s s') (t : ThrottleId) :
    Resembles ((reset t).exec s).2 ((reset t).exec s').2 := by
  have cleared := h.setLimiter t .cleared
  simp only [reset, exec_bind, exec_get, exec_modify, h.throttle_eq, h.logger_quota, h.logger_stopwatch]
  split
  · exact cleared
  · have aside (k : SinkId) (d : Digest) : Aside Resembles (do
        deliver (.digest t d) k ⟨(s.throttle t).topic.voice, d.text⟩
        modify (changeTally (s.throttle t).logger Tally.countDigest)
        return some d) :=
      (aside_deliver _ _ _).bind fun _ => (aside_countDigest _).bind fun _ => aside_pure _
    exact (together_readClock cleared _).bind_apart (Aside.both Resembles.symm (aside _ _) (aside _ _))

theorem together_resetAll (h : Resembles s s') (ts : List ThrottleId) :
    Together Resembles (resetAll ts) (resetAll ts) s s' := by
  induction ts generalizing s s' with
  | nil => exact ⟨rfl, h⟩
  | cons t ts ih =>
    have reset : Resembles ((resetOrReport t).exec s).2 ((resetOrReport t).exec s').2 :=
      Aside.recovers Resembles.symm (aside_reportFailure t) (aside_reportFailure t)
        (by simpa only [exec_discard] using resembles_reset h t)
    obtain ⟨s₁, he⟩ := resetOrReport_ok t s
    obtain ⟨s₁', he'⟩ := resetOrReport_ok t s'
    rw [he, he'] at reset
    have both : Together Resembles (resetOrReport t) (resetOrReport t) s s' := by
      rw [Together, he, he']
      exact ⟨rfl, reset⟩
    exact both.bind fun h => ih h

theorem together_flush (h : Resembles s s') (r : RosterId) :
    Together Resembles (flush r) (flush r) s s' := by
  simp only [flush, together_get_bind, together_modify_bind, h.roster_eq]
  exact together_resetAll ((h.changeRoster r _).write _ _) _

theorem closing_resembles (r : RosterId) : ClosingBoth r Resembles where
  holders h := h.holders
  closed h := congrArg Roster.closed (h.roster_eq r)
  flush h := (together_flush h r).2
  close h := h.changeRoster r _
  cancelJobs h := h.changeRoster r _
  letGo x h := { h with holders := by rw [h.holders] }

theorem together_enrol (h : Resembles s s') (r : RosterId) (t : ThrottleId) :
    Together Resembles (enrol r t) (enrol r t) s s' := by
  have enters {s s' : System} (h : Resembles s s') (period : Duration) (epoch : UInt64) :
      Together Resembles (do modify (changeRoster r (·.enrol period t)); modify (setStamp t epoch))
        (do modify (changeRoster r (·.enrol period t)); modify (setStamp t epoch)) s s' :=
    ⟨rfl, (h.changeRoster r _).setStamp t _⟩
  simp only [enrol, together_get_bind, h.throttle_eq, h.logger_quota, h.roster_eq]
  split
  · exact enters (h.write _ _) _ _
  · exact enters h _ _

theorem together_join (h : Resembles s s') (t : ThrottleId) :
    Together Resembles (join t) (join t) s s' := by
  simp only [join, together_get_bind, h.throttle_eq, h.logger_roster, h.roster_eq]
  split
  · rw [together_get_bind, h.alive_eq]
    split
    · exact together_enrol h _ t
    · exact ⟨rfl, h⟩
  · exact ⟨rfl, h⟩

/-- No sink fails on the warning, so both overflow. -/
theorem together_overflow (h : Resembles s s') (l : LoggerId) :
    Together Resembles (overflow l) (overflow l) s s' := by
  have noted := h.write (.notice .overflowed) (.notice .overflowed)
  have warned {k k' : SinkId} : Together Resembles (deliver (.overflow l) k ⟨.warn, overflowWarning⟩)
      (deliver (.overflow l) k' ⟨.warn, overflowWarning⟩) (write (.notice .overflowed) s)
      (write (.notice .overflowed) s') := by
    refine ⟨?_, Aside.both Resembles.symm (aside_deliver _ _ _) (aside_deliver _ _ _) noted⟩
    obtain ⟨_, he, _⟩ := deliver_ok (.overflow l) (noted.heeded.1 k _)
    obtain ⟨_, he', _⟩ := deliver_ok (.overflow l) (noted.heeded.2 k' _)
    rw [he, he']
  simp only [overflow, together_get_bind, together_modify_bind, h.logger_roster]
  refine warned.bind fun h => (together_flush h _).bind fun h => ⟨rfl, ?_⟩
  exact (h.setCatalogue l _).changeTally l fun _ => rfl

theorem together_introduce (h : Resembles s s') (l : LoggerId) (topic : Topic) :
    Together Resembles (introduce l topic) (introduce l topic) s s' := by
  have pushed : Resembles { s with throttles := s.throttles.push { topic, logger := l } }
      { s' with throttles := s'.throttles.push { topic, logger := l } } :=
    { h with throttles := by rw [h.throttles] }
  have entered (c : Catalogue) := pushed.setCatalogue l c
  simp only [introduce, together_get_bind, together_modify_bind, h.logger_roster, h.logger_catalogue,
    h.throttles]
  rw [h.throttles] at entered
  split
  · exact (together_enrol (entered _) _ _).bind fun h => ⟨rfl, h⟩
  · exact ⟨rfl, entered _⟩

theorem together_lookup (h : Resembles s s') (l : LoggerId) (topic : Topic) :
    Together Resembles (lookup l topic) (lookup l topic) s s' := by
  simp only [lookup, together_get_bind, h.logger_catalogue, h.logger_capacity]
  split
  · exact ⟨rfl, h⟩
  · split
    · exact (together_overflow h l).bind fun h => together_introduce h l topic
    · exact together_introduce h l topic

/-- The event is counted, and its throttle enrolled, before it is offered to a sink. -/
theorem resembles_logThrough (h : Resembles s s') (t : ThrottleId) (severity : Severity)
    (args args' : List Argument) :
    Resembles ((logThrough t severity args).exec s).2 ((logThrough t severity args').exec s').2 := by
  refine (together_join h t).bind_apart fun {_ s₁ s₁'} h => ?_
  simp only [exec_bind, exec_get, h.throttle_eq]
  rw [← exec_bind, ← exec_bind]
  refine (together_attempt h t).bind_apart fun {d s₂ s₂'} h => ?_
  cases d with
  | allow =>
    have counted := h.changeTally (s₁.throttle t).logger (f := Tally.countAllowed) fun _ => rfl
    have aside (k : SinkId) (c : Option CounterId) (args : List Argument) : Aside Resembles (do
        deliverTemplate (.event t) k severity (s₁.throttle t).topic.template args
        countCall c severity.counterName) := (aside_deliverTemplate _ _ _ _ _).bind fun _ => aside_countCall c _
    exact Aside.both Resembles.symm (aside _ _ args) (aside _ _ args') counted
  | suppress =>
    have counted := h.changeTally (s₁.throttle t).logger (f := Tally.countSuppressed) fun _ => rfl
    exact Aside.both Resembles.symm (aside_countCall _ _) (aside_countCall _ _) counted

end LogThrottle.System
