import LogThrottle.Proofs.Enrolment.Logging
import LogThrottle.Proofs.Limiter.Attempting
import LogThrottle.Proofs.System.Ticking
import LogThrottle.Proofs.System.Waning

/-! Every action clears limiters at most, and then counts at most one event, whose line is the last thing
that the journal sees of it. -/
namespace LogThrottle

/-- The reset job that an action runs resets the throttle. -/
def Action.Fires (s : System) (a : Action) (t : ThrottleId) : Prop :=
  ∃ r period, a = .fire r period ∧ t ∈ (s.roster r).due period

namespace System
open Call

/-- At most `n` lines of events of a throttle are written, and no throttle is touched. -/
def Echoes (t : ThrottleId) (n : Nat) (s s' : System) : Prop :=
  ∃ es, es.length ≤ n ∧ (∀ e ∈ es, ∃ k line, e = .line (.event t) k line) ∧ Carries es s s' ∧
    s'.throttles = s.throttles

/-- One attempt on a throttle, and a line at most if it passes. -/
structure Counted (t : ThrottleId) (answer : Option Decision) (es : List Entry) (s s' : System) : Prop
    extends Carries es s s' where
  lines : es.length ≤ if answer = some .allow then 1 else 0
  own : ∀ e ∈ es, ∃ k line, e = .line (.event t) k line
  tried : (s.throttle t).limiter.Attempted (s.limit t) answer (s'.throttle t).limiter
  others : ∀ u, u ≠ t → (s'.throttle u).limiter = (s.throttle u).limiter
  unread : answer = none → ¬s.Fine (s.logger (s.throttle t).logger).stopwatch

/-- What an action does: nothing but clearing at first, then perhaps one event. -/
inductive Outcome (s : System) (a : Action) (s' : System) : Prop where
  | quiet (sound : Sound s') (wanes : Wanes (a.Fires s) s s')
  | event {s₁ : System} {t : ThrottleId} {answer : Option Decision} {es : List Entry} (sound : Sound s₁)
      (wanes : Wanes (a.Fires s) s s₁) (made : t < s₁.throttles.size)
      (counted : Counted t answer es s₁ s') (reached : a.throttle? s = some t ∨ a = .attempt t)

section Echoes
variable {α β : Type} {t : ThrottleId} {n m : Nat} {s s' s'' : System}

theorem Echoes.refl (t : ThrottleId) (n : Nat) (s : System) : Echoes t n s s :=
  ⟨[], Nat.zero_le n, by simp, .refl s, rfl⟩

theorem Echoes.trans (h : Echoes t n s s') (h' : Echoes t m s' s'') : Echoes t (n + m) s s'' := by
  obtain ⟨es, few, own, carries, same⟩ := h
  obtain ⟨fs, few', own', carries', same'⟩ := h'
  refine ⟨es ++ fs, ?_, fun e he => ?_, carries.trans carries', same'.trans same⟩
  · rw [List.length_append]
    exact Nat.add_le_add few few'
  · exact (List.mem_append.mp he).elim (own e) (own' e)

/-- What comes first writes nothing. -/
private theorem echoes_after {c : Call α} {k : α → Call β} (hc : Keeps (Echoes t 0) c)
    (hk : ∀ a, Keeps (Echoes t n) (k a)) : Keeps (Echoes t n) (c >>= k) := by
  intro s
  rw [exec_bind]
  have first := hc s
  revert first
  rcases c.exec s with ⟨_ | a, s'⟩
  · exact fun first => Nat.zero_add n ▸ first.trans (.refl t n s')
  · exact fun first => Nat.zero_add n ▸ first.trans (hk a s')

/-- What comes after writes nothing. -/
private theorem echoes_before {c : Call α} {k : α → Call β} (hc : Keeps (Echoes t n) c)
    (hk : ∀ a, Keeps (Echoes t 0) (k a)) : Keeps (Echoes t n) (c >>= k) := by
  intro s
  rw [exec_bind]
  have first := hc s
  revert first
  rcases c.exec s with ⟨_ | a, s'⟩
  · exact id
  · exact fun first => first.trans (hk a s')

private theorem frame_echoes (t : ThrottleId) : Frame (fun _ => False) (Echoes t 0) where
  refl := .refl t 0
  trans := .trans
  wrote nothing wrote := by
    obtain rfl := List.eq_nil_iff_forall_not_mem.mpr nothing
    exact ⟨[], Nat.le_refl 0, by simp, wrote.carries, wrote.throttles⟩
  asked s _ _ := ⟨[], Nat.le_refl 0, by simp, { Carries.refl s with }, rfl⟩

private theorem echoes_changeTally (l : LoggerId) (f : Tally → Tally) :
    Keeps (Echoes t 0) (modify (changeTally l f)) := by
  exact fun s => ⟨[], Nat.le_refl 0, by simp, carries_changeTally s l f, rfl⟩

private theorem echoes_deliverTemplate (k : SinkId) (severity : Severity) (template : String)
    (args : List Argument) :
    Keeps (Echoes t 1) (deliverTemplate (.event t) k severity template args) := by
  apply echoes_after (frame_echoes t).get
  intro _
  apply echoes_after ((frame_echoes t).ofExcept _)
  intro message s
  cases h : (s.sink k).fault (s.sink k).calls ⟨severity, message⟩ with
  | none =>
    obtain ⟨s', he, hw⟩ := deliver_ok (.event t) h
    rw [he]
    exact ⟨[.line (.event t) k ⟨severity, message⟩], Nat.le_refl 1, by simp, hw.carries, hw.throttles⟩
  | some f =>
    obtain ⟨s', he, hw⟩ := deliver_fault (.event t) h
    rw [he]
    exact ⟨[], Nat.zero_le 1, by simp, hw.carries, hw.throttles⟩

end Echoes

section Counted
variable {t : ThrottleId} {answer : Option Decision} {s s' s'' : System}

theorem Counted.echo (h : Counted t answer [] s s')
    (echo : Echoes t (if answer = some .allow then 1 else 0) s' s'') :
    ∃ es, Counted t answer es s s'' := by
  obtain ⟨es, few, own, carries, same⟩ := echo
  have read (u : ThrottleId) : s''.throttle u = s'.throttle u := by rw [throttle, same, throttle]
  refine ⟨es, { h.toCarries.trans carries with
    lines := few, own, tried := ?_, others := ?_, unread := h.unread }⟩
  · rw [read]
    exact h.tried
  · intro u other
    rw [read]
    exact h.others u other

/-- An attempt asks the stopwatch only where the limit is reached, and after it has counted. -/
theorem counted_attempt (made : t < s.throttles.size) :
    Counted t ((attempt t).exec s).1.toOption [] s ((attempt t).exec s).2 := by
  have left {x : Limiter} {s' : System} {answer : Option Decision} (wrote : Wrote [] (setLimiter t x s) s')
      (tried : (s.throttle t).limiter.Attempted (s.limit t) answer x)
      (unread : answer = none → ¬s.Fine (s.logger (s.throttle t).logger).stopwatch) :
      Counted t answer [] s s' := by
    have read (u : ThrottleId) : (s'.throttle u).limiter =
        if t = u ∧ u < s.throttles.size then x else (s.throttle u).limiter := by
      rw [throttle, wrote.throttles, ← throttle, throttle_setLimiter]
      split <;> rfl
    have set := carries_setLimiter s t x
    refine { set.trans wrote.carries with
      lines := Nat.zero_le _, own := by simp, tried := ?_, others := ?_, unread }
    · rw [read, if_pos ⟨rfl, made⟩]
      exact tried
    · intro u other
      rw [read, if_neg fun own => other own.1.symm]
  have answered {x : Limiter} {s' : System} {d : Decision} (wrote : Wrote [] (setLimiter t x s) s')
      (tried : (s.throttle t).limiter.Attempted (s.limit t) (some d) x) : Counted t (some d) [] s s' :=
    left wrote tried fun none => absurd none (Option.some_ne_none d)
  have bumped := Wrote.refl (setLimiter t (s.throttle t).limiter.bump s)
  simp only [attempt, exec_bind, exec_get, exec_modify, Limiter.course]
  by_cases early : Limiter.below (s.logger (s.throttle t).logger).quota.limit
      (s.throttle t).limiter.ordinal = true
  · simp only [early, if_true]
    exact answered bumped (.pass early)
  · simp only [early, Bool.false_eq_true, if_false]
    have late := Bool.eq_false_iff.mpr early
    cases limited : (s.throttle t).limiter.bump.isLimited with
    | true =>
      simp only [if_true]
      exact answered bumped (.hold late limited)
    | false =>
      have unlimited : (s.throttle t).limiter.isLimited = false := limited
      by_cases again : Limiter.below (s.logger (s.throttle t).logger).quota.limit
          (s.throttle t).limiter.bump.count = true
      · simp only [again, if_true, Bool.false_eq_true, if_false]
        exact answered bumped (.wrap late unlimited again)
      · simp only [again, Bool.false_eq_true, if_false, exec_bind]
        obtain ⟨s₁, he, asked⟩ := readClock_exec (setLimiter t (s.throttle t).limiter.bump s)
          (s.logger (s.throttle t).logger).stopwatch
        cases reading : (s.stopwatch (s.logger (s.throttle t).logger).stopwatch).read.1 with
        | error f =>
          have failed : (readClock (s.logger (s.throttle t).logger).stopwatch).exec
              (setLimiter t (s.throttle t).limiter.bump s) = (.error f, s₁) :=
            he.trans (congrArg (fun e => (Except.map Duration.clockMillis e, s₁)) reading)
          rw [failed]
          refine left asked (.unread unlimited) fun _ fine => ?_
          simp [Stopwatch.read, fine.1, fine.2] at reading
        | ok d =>
          have told : (readClock (s.logger (s.throttle t).logger).stopwatch).exec
              (setLimiter t (s.throttle t).limiter.bump s) = (.ok d.clockMillis, s₁) :=
            he.trans (congrArg (fun e => (Except.map Duration.clockMillis e, s₁)) reading)
          have marked := asked.setLimiter t ((s.throttle t).limiter.bump.setMark d.clockMillis)
          rw [setLimiter_setLimiter] at marked
          simp only [told, exec_modify, exec_pure]
          exact answered marked (.mark unlimited (Bool.eq_false_iff.mpr again) d.clockMillis_ne_zero)

/-- After the joining, a logging call counts one event of its throttle. -/
theorem counted_logThrough (severity : Severity) (args : List Argument)
    (he : (join t).exec s = (.ok (), s')) (made : t < s'.throttles.size) :
    ∃ answer es, Counted t answer es s' ((logThrough t severity args).exec s).2 := by
  have counted := counted_attempt made
  rw [logThrough, exec_bind, he]
  simp only [exec_bind, exec_get]
  revert counted
  rcases (attempt t).exec s' with ⟨f | d, s₁⟩
  · exact fun counted => ⟨_, _, counted⟩
  · intro counted
    refine ⟨_, counted.echo (?_ : Echoes t _ s₁ _)⟩
    cases d with
    | allow =>
      refine echoes_after (echoes_changeTally _ _) (fun _ => ?_) s₁
      exact echoes_before (echoes_deliverTemplate _ _ _ _) fun _ => (frame_echoes t).countCall _ _
    | suppress => exact echoes_after (echoes_changeTally _ _) (fun _ => (frame_echoes t).countCall _ _) s₁

end Counted

private theorem wanes_addStopwatch (D : ThrottleId → Prop) (s : System) (x : Stopwatch) :
    Wanes D s { s with stopwatches := s.stopwatches.push x } := by
  refine ⟨[], .nil, Carries.clears { Carries.refl s with fine := fun w fine => ?_ } fun _ => rfl⟩
  have read : System.stopwatch { s with stopwatches := s.stopwatches.push x } w =
      if w = s.stopwatches.size then x else s.stopwatch w := getD_push ..
  by_cases new : w = s.stopwatches.size
  · have unmade : s.stopwatch w = {} := getD_of_size_le (Nat.le_of_eq new.symm) _
    rw [Fine, unmade]
    exact ⟨rfl, fun _ => rfl⟩
  · rwa [Fine, read, if_neg new, ← Fine] at fine

private theorem wanes_build (D : ThrottleId → Prop) (p : Plan) : Keeps (Wanes D) (build p) := by
  intro s
  rw [build]
  cases p.logger with
  | error e => exact .refl D s
  | ok x =>
    have read (l : LoggerId) : (s.loggers.push x).getD l default =
        if l = s.loggers.size then x else s.logger l := getD_push ..
    refine ⟨[], .nil, Carries.clears { Carries.refl s with
      loggers := ?_, logger := fun l hl => ?_, listed := fun l topic t found => .inl ?_ } fun _ => rfl⟩
    · exact Nat.le_of_lt (Nat.lt_of_lt_of_eq (Nat.lt_succ_self _) (Array.size_push ..).symm)
    · exact congrArg (fun y : Logger => { y with tally := {}, catalogue := {} })
        ((read l).trans (if_neg (Nat.ne_of_lt hl)))
    · have made : l ≠ s.loggers.size := by
        rintro rfl
        rw [logger_of_size_le (Nat.le_refl _)] at found
        exact absurd found (by simp [default, Catalogue.find?, Catalogue.shelf])
      exact (congrArg (fun y : Logger => y.catalogue.find? topic) ((read l).trans (if_neg made))).trans found

/-- A move mends no stopwatch. -/
private theorem fine_move {x : Stopwatch} {m : Stopwatch.Move}
    (fine : (x.move m).2.broken = false ∧ ∀ n, (x.move m).2.fault n = none) :
    x.broken = false ∧ ∀ n, x.fault n = none := by
  cases broken : x.broken with
  | true => cases m <;> simp [Stopwatch.move, Stopwatch.advance, Stopwatch.set, broken] at fine
  | false =>
    refine ⟨rfl, fun n => ?_⟩
    have same : (x.move m).2.fault = x.fault := by
      cases m with
      | set d => simp [Stopwatch.move, Stopwatch.set, broken]
      | advance d =>
        simp only [Stopwatch.move, Stopwatch.advance, broken]
        cases x.reading.add? d <;> rfl
    rw [← same]
    exact fine.2 n

private theorem wanes_move (D : ThrottleId → Prop) (s : System) (w : StopwatchId) (m : Stopwatch.Move) :
    Wanes D s (s.after (.move w m)) := by
  have read (i : StopwatchId) : (s.stopwatches.setIfInBounds w ((s.stopwatch w).move m).2).getD i default =
      if w = i ∧ i < s.stopwatches.size then ((s.stopwatch w).move m).2 else s.stopwatch i :=
    getD_setIfInBounds ..
  rw [after_move]
  refine ⟨[], .nil, Carries.clears { Carries.refl s with fine := fun i fine => ?_ } fun _ => rfl⟩
  by_cases own : w = i ∧ i < s.stopwatches.size
  · rw [Fine, stopwatch, read, if_pos own] at fine
    exact own.1 ▸ fine_move fine
  · rwa [Fine, stopwatch, read, if_neg own] at fine

/-- Whatever reaches no throttle clears limiters at most. -/
private theorem wanes_after {s : System} {a : Action} (silent : a.throttle? s = none)
    (bare : ∀ t, a ≠ .attempt t) : Wanes (a.Fires s) s (s.after a) := by
  cases a with
  | addSink | addCounter | openRoster | guard | share => exact .of_same rfl rfl rfl rfl
  | addStopwatch reading fault => exact wanes_addStopwatch _ s { reading, fault }
  | build p => exact wanes_build _ p s
  | move w m => exact wanes_move _ s w m
  | lookup l topic => exact wanes_lookup l topic s
  | log l severity template args =>
    have wanes := wanes_lookup (D := (Action.log l severity template args).Fires s) l { template } s
    rw [Action.throttle?] at silent
    rw [after, Action.perform, log, exec_bind]
    revert wanes silent
    rcases (lookup l { template }).exec s with ⟨f | t, s'⟩
    · exact fun _ wanes => wanes
    · intro silent
      cases silent
  | logThrough | emit => cases silent
  | attempt t => exact absurd rfl (bare t)
  | enrol r t => exact wanes_enrol r t s
  | flush r => exact wanes_flush r s
  | shutdown r => exact (closing_wanes _).shutdown r s
  | fire r period => exact wanes_resetAll (fun t due => ⟨r, period, rfl, due⟩) s
  | release x => exact (closing_wanes _).release x s
  | resetTally l => exact wanes_changeTally s l fun _ => {}

theorem after_outcome {s : System} {a : Action} (h : Sound s) (ready : a.Ready s) :
    Outcome s a (s.after a) := by
  cases reached : a.throttle? s with
  | none =>
    by_cases bare : ∃ t, a = .attempt t
    · obtain ⟨t, rfl⟩ := bare
      exact .event h (.refl _ s) ready (counted_attempt ready) (.inr rfl)
    · exact .quiet (h.after ready) (wanes_after reached fun t same => bare ⟨t, same⟩)
  | some t =>
    obtain ⟨s₁, severity, after, made, found⟩ := logging_outcome h ready reached
    have before : Sound s₁ ∧ Wanes (a.Fires s) s s₁ := by
      rcases found with rfl | ⟨_, path, _, l, topic, rfl⟩
      · exact ⟨h, .refl _ s₁⟩
      · exact ⟨h.shifts path, wanes_lookup l topic s⟩
    obtain ⟨s₂, joining, joined⟩ := join_outcome t s₁
    have there : t < s₂.throttles.size := by rwa [joined.throttles]
    have joins := wanes_join (D := a.Fires s) t s₁
    rw [joining] at joins
    obtain ⟨answer, es, counted⟩ := counted_logThrough severity a.arguments joining there
    rw [← after] at counted
    exact .event (before.1.shifts (joined.shifts made)) (before.2.trans joins) there counted (.inl reached)

end System
end LogThrottle
