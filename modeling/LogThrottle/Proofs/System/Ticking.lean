import LogThrottle.Proofs.System.Calm
import LogThrottle.Proofs.Templates.Filling

/-! Logging calls where nothing outside fails: after the joining, the limiter takes one event, the tally
counts it, an event that passes is delivered, and the external counter goes up. -/
namespace LogThrottle

/-- Arguments that are all shown without a fault. -/
def Painless (args : List Argument) : Prop := ∀ f, .faulty f ∉ args

private theorem written_of_painless {x : Argument} {args : List Argument} (h : Painless (x :: args)) :
    ∃ text, x.written = .ok text := by
  cases x with
  | faulty f => exact absurd List.mem_cons_self (h f)
  | _ => exact ⟨_, rfl⟩

private theorem painless_tail {x : Argument} {args : List Argument} (h : Painless (x :: args)) :
    Painless args := fun f member => h f (List.mem_cons_of_mem x member)

private theorem written_all_ok {args : List Argument} (h : Painless args) :
    ∃ texts, args.mapM Argument.written = .ok texts := by
  induction args with
  | nil => exact ⟨[], rfl⟩
  | cons x args ih =>
    obtain ⟨text, hx⟩ := written_of_painless h
    obtain ⟨texts, ht⟩ := ih (painless_tail h)
    exact ⟨text :: texts, by rw [List.mapM_cons, hx, ht]; rfl⟩

private theorem fillChars_ok (template : List Char) {args : List Argument} (h : Painless args) :
    ∃ filled, Template.fillChars template args = .ok filled := by
  have shown : Painless (args.take ((Template.pieces template).length - 1)) := fun f member =>
    h f (List.mem_of_mem_take member)
  obtain ⟨texts, ht⟩ := written_all_ok shown
  exact ⟨Template.woven (Template.pieces template) texts, by rw [Template.fillChars_eq, ht]; rfl⟩

/-- Every sink makes a message of such arguments. -/
theorem Sink.Style.render_ok (style : Sink.Style) (template : String) {args : List Argument}
    (h : Painless args) : ∃ message, style.render template args = .ok message := by
  have filled : ∃ message, Template.Filled.text <$> Template.fill template args = .ok message := by
    rw [Template.fill]
    split
    · exact ⟨template, rfl⟩
    · obtain ⟨chars, hc⟩ := fillChars_ok template.toList h
      exact ⟨String.ofList chars, by rw [hc]; rfl⟩
  cases style with
  | filled => exact filled
  | traced => exact filled
  | itemised =>
    obtain ⟨texts, ht⟩ := written_all_ok h
    exact ⟨_, by rw [render, Template.itemise, ht]; rfl⟩

/-- Counts a decision. -/
def Decision.count : Decision → Tally → Tally
  | .allow => Tally.countAllowed
  | .suppress => Tally.countSuppressed

namespace System
open Call

theorem setLimiter_setLimiter (t : ThrottleId) (x y : Limiter) (s : System) :
    setLimiter t y (setLimiter t x s) = setLimiter t y s := by
  simp only [setLimiter, System.mk.injEq, true_and, and_true]
  apply Array.ext_getElem?
  intro i
  simp only [Array.getElem?_modify]
  split
  · rw [Option.map_map]
    rfl
  · rfl

theorem Wrote.setLimiter {es : List Entry} {s s' : System} (h : Wrote es s s') (t : ThrottleId)
    (x : Limiter) : Wrote es (setLimiter t x s) (setLimiter t x s') :=
  { h with
    throttles :=
      congrArg (fun ts : Array Throttle => ts.modify t fun y => { y with limiter := x }) h.throttles }

theorem Wrote.changeTally {es : List Entry} {s s' : System} (h : Wrote es s s') (l : LoggerId)
    (f : Tally → Tally) : Wrote es (changeTally l f s) (changeTally l f s') :=
  { h with
    loggers :=
      congrArg (fun ls : Array Logger => ls.modify l fun y => { y with tally := f y.tally }) h.loggers }

theorem Wrote.countUp {es : List Entry} {s s' : System} (h : Wrote es s s') (c : CounterId)
    (name : String) : Wrote es (countUp c name s) (countUp c name s') := by
  have counts : (s'.counter c).counts = (s.counter c).counts := (congrArg Counter.counts (h.counter c) :)
  have fault : (s'.counter c).fault = (s.counter c).fault := (congrArg Counter.fault (h.counter c) :)
  refine { h with counter := fun i => ?_, sizes := ⟨h.sizes.1, h.sizes.2.1, ?_⟩ }
  · rw [counter_countUp, counter_countUp, h.sizes.2.2]
    split
    · simp only [Counter.raised, counts, fault]
    · exact h.counter i
  · simp only [System.countUp, Array.size_setIfInBounds, h.sizes.2.2]

namespace Joined
variable {t : ThrottleId} {s s' : System}

theorem calm (h : Joined t s s') (calm : Calm s) : Calm s' := by
  cases h with
  | idle => exact calm
  | enrolled _ _ wrote =>
    have kept := wrote.calm calm
    exact ⟨kept.sink, kept.stopwatch, kept.counter⟩

end Joined

variable {s : System} {t : ThrottleId}

/-- What the limiter of a throttle makes of an event now. -/
def verdict (s : System) (t : ThrottleId) : Decision × Limiter :=
  (s.throttle t).limiter.attempt (s.limit t) (s.now t).clockMillis

/-- One event counted everywhere. -/
def ticked (t : ThrottleId) (severity : Severity) (s : System) : System :=
  let logger := s.logger (s.throttle t).logger
  let counted := changeTally (s.throttle t).logger (Decision.count (s.verdict t).1)
    (setLimiter t (s.verdict t).2 s)
  match logger.counter with
  | some c => countUp c severity.counterName counted
  | none => counted

section Ticked
variable (severity : Severity)

theorem throttle_ticked (u : ThrottleId) :
    (ticked t severity s).throttle u =
      if t = u ∧ u < s.throttles.size then { s.throttle u with limiter := (s.verdict t).2 }
      else s.throttle u := by
  have same : (ticked t severity s).throttles = (setLimiter t (s.verdict t).2 s).throttles := by
    rw [ticked]
    split <;> rfl
  rw [throttle, same]
  exact throttle_setLimiter ..

theorem logger_ticked (l : LoggerId) :
    (ticked t severity s).logger l =
      if (s.throttle t).logger = l ∧ l < s.loggers.size then
        { s.logger l with tally := Decision.count (s.verdict t).1 (s.logger l).tally }
      else s.logger l := by
  have same : (ticked t severity s).loggers =
      (changeTally (s.throttle t).logger (Decision.count (s.verdict t).1) s).loggers := by
    rw [ticked]
    split <;> rfl
  rw [logger, same]
  exact logger_changeTally ..

theorem counter_ticked (c : CounterId) :
    (ticked t severity s).counter c =
      if (s.logger (s.throttle t).logger).counter = some c ∧ c < s.counters.size then
        (s.counter c).raised severity.counterName
      else s.counter c := by
  rw [ticked]
  cases (s.logger (s.throttle t).logger).counter with
  | none => rw [if_neg fun h => nomatch h.1]; rfl
  | some d =>
    simp only [counter_countUp, Option.some.injEq]
    by_cases own : d = c
    · subst own
      rfl
    · rw [if_neg fun h => own h.1, if_neg fun h => own h.1]
      rfl

theorem size_throttles_ticked : (ticked t severity s).throttles.size = s.throttles.size := by
  rw [ticked]
  split <;> exact size_throttles_setLimiter ..

theorem journal_ticked : (ticked t severity s).journal = s.journal := by
  rw [ticked]
  split <;> rfl

theorem rosters_ticked : (ticked t severity s).rosters = s.rosters := by
  rw [ticked]
  split <;> rfl

theorem calm_ticked (h : Calm s) : Calm (ticked t severity s) := by
  have counted : Calm (changeTally (s.throttle t).logger (Decision.count (s.verdict t).1)
    (setLimiter t (s.verdict t).2 s)) := ⟨h.sink, h.stopwatch, h.counter⟩
  rw [ticked]
  split
  · rename_i c _
    refine ⟨counted.sink, counted.stopwatch, fun i m name => ?_⟩
    rw [counter_countUp]
    split
    · exact h.counter c m name
    · exact h.counter i m name
  · exact counted

end Ticked

/-- The line of an event, if it passes. -/
def eventEntries (s : System) (t : ThrottleId) (line : Line) : List Entry :=
  match (s.verdict t).1 with
  | .allow => [.line (.event t) (s.logger (s.throttle t).logger).sink line]
  | .suppress => []

theorem attempt_exec (fine : s.Fine (s.logger (s.throttle t).logger).stopwatch) :
    ∃ s', (attempt t).exec s = (.ok (s.verdict t).1, s') ∧ Wrote [] (setLimiter t (s.verdict t).2 s) s' := by
  have bumped := Wrote.refl (setLimiter t (s.throttle t).limiter.bump s)
  simp only [attempt, exec_bind, exec_get, exec_modify, verdict, Limiter.attempt, limit]
  cases (s.throttle t).limiter.bump.course (s.logger (s.throttle t).logger).quota.limit
    (s.throttle t).limiter.ordinal with
  | pass => exact ⟨_, rfl, bumped⟩
  | hold => exact ⟨_, rfl, bumped⟩
  | mark =>
    by_cases again : Limiter.below (s.logger (s.throttle t).logger).quota.limit
        (s.throttle t).limiter.bump.count = true
    · simp only [again, if_true]
      exact ⟨_, rfl, bumped⟩
    · have unmoved : (setLimiter t (s.throttle t).limiter.bump s).Fine
          (s.logger (s.throttle t).logger).stopwatch := fine
      obtain ⟨s₁, he, read⟩ := readClock_fine unmoved
      have marked := read.setLimiter t ((s.throttle t).limiter.bump.setMark (s.now t).clockMillis)
      rw [setLimiter_setLimiter] at marked
      have reading : ((setLimiter t (s.throttle t).limiter.bump s).stopwatch
          (s.logger (s.throttle t).logger).stopwatch).reading = s.now t := rfl
      rw [reading] at he
      simp only [again, Bool.false_eq_true, if_false, exec_bind, he, exec_modify, exec_pure]
      exact ⟨_, rfl, marked⟩

theorem attempt_calm (h : Calm s) (t : ThrottleId) :
    ∃ s', (attempt t).exec s = (.ok (s.verdict t).1, s') ∧ Wrote [] (setLimiter t (s.verdict t).2 s) s' :=
  attempt_exec (h.stopwatch _)

theorem increment_calm (h : Calm s) (c : CounterId) (name : String) :
    ∃ s', (increment c name).exec s = (.ok (), s') ∧ Wrote [] (countUp c name s) s' :=
  increment_ok (h.counter c _ name)

theorem deliverTemplate_calm (h : Calm s) (o : Origin) (k : SinkId) (severity : Severity)
    {template : String} {args : List Argument} {message : String}
    (rendered : (s.sink k).style.render template args = .ok message) :
    ∃ s', (deliverTemplate o k severity template args).exec s = (.ok (), s') ∧
      Wrote [.line o k ⟨severity, message⟩] s s' := by
  simp only [deliverTemplate, exec_bind, exec_get, rendered, exec_ofExcept]
  exact deliver_serene h.serene o k ⟨severity, message⟩

/-- What is left after the decision and its line: the external counter. -/
private theorem countCall_calm (h : Calm s) {t : ThrottleId} (severity : Severity) {es : List Entry}
    {s' : System} (wrote : Wrote es (changeTally (s.throttle t).logger (Decision.count (s.verdict t).1)
      (setLimiter t (s.verdict t).2 s)) s') :
    ∃ s'', (countCall (s.logger (s.throttle t).logger).counter severity.counterName).exec s' = (.ok (), s'') ∧
      Wrote es (ticked t severity s) s'' := by
  have calm := wrote.calm ⟨h.sink, h.stopwatch, h.counter⟩
  rw [ticked]
  cases (s.logger (s.throttle t).logger).counter with
  | none => exact ⟨s', rfl, wrote⟩
  | some c =>
    obtain ⟨s'', he, up⟩ := increment_calm calm c severity.counterName
    have both := (wrote.countUp c severity.counterName).trans up
    rw [List.append_nil] at both
    exact ⟨s'', he, both⟩

/-- A logging call through a throttle joins it, counts one event, and delivers it if it passes. -/
theorem logThrough_calm (h : Calm s) (t : ThrottleId) (severity : Severity) {args : List Argument}
    (shown : Painless args) :
    ∃ s₁ s' message, (join t).exec s = (.ok (), s₁) ∧ Joined t s s₁ ∧
      (logThrough t severity args).exec s = (.ok (), s') ∧
      (s₁.sink (s₁.logger (s₁.throttle t).logger).sink).style.render (s₁.throttle t).topic.template args =
        .ok message ∧
      Wrote (s₁.eventEntries t ⟨severity, message⟩) (ticked t severity s₁) s' := by
  obtain ⟨s₁, he, joined⟩ := join_outcome t s
  have calm := joined.calm h
  obtain ⟨message, rendered⟩ := Sink.Style.render_ok
    (s₁.sink (s₁.logger (s₁.throttle t).logger).sink).style (s₁.throttle t).topic.template shown
  obtain ⟨s₂, he₂, tried⟩ := attempt_calm calm t
  have counted := tried.changeTally (s₁.throttle t).logger (Decision.count (s₁.verdict t).1)
  rw [logThrough, exec_bind, he]
  simp only [exec_bind, exec_get, he₂]
  cases hd : (s₁.verdict t).1 with
  | allow =>
    obtain ⟨s₃, he₃, wrote⟩ := deliverTemplate_calm
      (counted.calm ⟨calm.sink, calm.stopwatch, calm.counter⟩) (.event t)
      (s₁.logger (s₁.throttle t).logger).sink severity
      (by rw [(congrArg Sink.style (counted.sink _) :)]; exact rendered)
    obtain ⟨s', he', all⟩ := countCall_calm calm severity (counted.trans wrote)
    rw [hd, Decision.count] at he₃
    refine ⟨s₁, s', message, rfl, joined, ?_, rendered, by rw [eventEntries, hd]; exact all⟩
    simp only [exec_bind, exec_modify, he₃]
    exact he'
  | suppress =>
    obtain ⟨s', he', all⟩ := countCall_calm calm severity counted
    rw [hd, Decision.count] at he'
    refine ⟨s₁, s', message, rfl, joined, ?_, rendered, by rw [eventEntries, hd]; exact all⟩
    simp only [exec_bind, exec_modify]
    exact he'

end System
end LogThrottle
