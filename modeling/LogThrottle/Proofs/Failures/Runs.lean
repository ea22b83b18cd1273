import LogThrottle.Proofs.Failures.Lockstep
import LogThrottle.Proofs.System.Runs

/-! Runs that differ in the failures of sinks, counters and arguments. They limit alike at every point. -/
namespace LogThrottle
open Call

/-- The same action, with a sink, a counter or arguments that may fail otherwise. -/
inductive Action.Resembles : Action → Action → Prop where
  | same (a : Action) : Resembles a a
  | addSink (style : Sink.Style) (fault fault' : Nat → Line → Option Fault) :
      Resembles (.addSink style fault) (.addSink style fault')
  | addCounter (fault fault' : Nat → String → Option Fault) :
      Resembles (.addCounter fault) (.addCounter fault')
  | log (l : LoggerId) (severity : Severity) (template : String) (args args' : List Argument) :
      Resembles (.log l severity template args) (.log l severity template args')
  | logThrough (t : ThrottleId) (severity : Severity) (args args' : List Argument) :
      Resembles (.logThrough t severity args) (.logThrough t severity args')
  | emit (t : ThrottleId) (args args' : List Argument) : Resembles (.emit t args) (.emit t args')

/-- A new sink does not fail on the warning of an overflow. -/
def Action.Heeded : Action → Prop
  | .addSink _ fault => ∀ n, fault n ⟨.warn, System.overflowWarning⟩ = none
  | _ => True

namespace System
variable {s s' : System}

theorem Heeded.addSink (h : s.Heeded) {x : Sink} (quiet : ∀ n, x.fault n ⟨.warn, overflowWarning⟩ = none) :
    Heeded { s with sinks := s.sinks.push x } := by
  intro k
  rw [sink, getD_push]
  split
  · exact quiet
  · exact h k

private theorem resembles_addSink (h : Resembles s s') {x x' : Sink}
    (quiet : ∀ n, x.fault n ⟨.warn, overflowWarning⟩ = none)
    (quiet' : ∀ n, x'.fault n ⟨.warn, overflowWarning⟩ = none) :
    Resembles { s with sinks := s.sinks.push x } { s' with sinks := s'.sinks.push x' } :=
  { h with heeded := ⟨h.heeded.1.addSink quiet, h.heeded.2.addSink quiet'⟩ }

private theorem together_hold (h : Resembles s s') (x : Holder) :
    Together Resembles (hold x) (hold x) s s' :=
  ⟨rfl, { h with holders := congrArg (x :: ·) h.holders }⟩

private theorem together_openRoster (h : Resembles s s') :
    Together Resembles openRoster openRoster s s' := by
  have opened : Resembles { s with rosters := s.rosters.push {} } { s' with rosters := s'.rosters.push {} } :=
    { h with rosters := by rw [h.rosters] }
  have first : Together Resembles
      (modifyGet fun s => (s.rosters.size, { s with rosters := s.rosters.push {} }) : Call RosterId)
      (modifyGet fun s => (s.rosters.size, { s with rosters := s.rosters.push {} })) s s' :=
    ⟨congrArg (fun rs : Array Roster => Except.ok rs.size) h.rosters.symm, opened⟩
  exact first.bind fun h => (together_hold h _).bind fun h => ⟨rfl, h⟩

private theorem together_build (h : Resembles s s') (p : Plan) :
    Together Resembles (build p) (build p) s s' := by
  rw [build]
  cases p.logger with
  | error e => exact ⟨rfl, h⟩
  | ok x =>
    have built : Resembles { s with loggers := s.loggers.push x } { s' with loggers := s'.loggers.push x } := by
      refine { h with loggers := by simp only [Array.size_push, h.loggers], logger := fun l => ?_ }
      simp only [logger, getD_push, h.loggers]
      split
      · rfl
      · exact h.logger l
    have first : Together Resembles
        (modifyGet fun s => (s.loggers.size, { s with loggers := s.loggers.push x }) : Call LoggerId)
        (modifyGet fun s => (s.loggers.size, { s with loggers := s.loggers.push x })) s s' :=
      ⟨congrArg Except.ok h.loggers.symm, built⟩
    exact first.bind fun h => (together_hold h _).bind fun h => ⟨rfl, h⟩

private theorem resembles_log (h : Resembles s s') (l : LoggerId) (severity : Severity) (template : String)
    (args args' : List Argument) :
    Resembles (s.after (.log l severity template args)) (s'.after (.log l severity template args')) :=
  (together_lookup h l { template }).bind_apart fun h => resembles_logThrough h _ severity args args'

private theorem resembles_emit (h : Resembles s s') (t : ThrottleId) (args args' : List Argument) :
    Resembles (s.after (.emit t args)) (s'.after (.emit t args')) := by
  have logged := resembles_logThrough h t (s.throttle t).topic.voice args args'
  rw [← h.throttle_eq] at logged
  simp only [after, Action.perform, emit, exec_bind, exec_get]
  rwa [h.throttle_eq] at logged ⊢

private theorem together_share (h : Resembles s s') (l : LoggerId) :
    Together Resembles (share l) (share l) s s' := by
  rw [share, together_get_bind, h.logger_roster]
  exact together_hold h _

private theorem together_fire (h : Resembles s s') (r : RosterId) (period : Duration) :
    Together Resembles (fire r period) (fire r period) s s' := by
  rw [fire, together_get_bind, h.roster_eq]
  exact together_resetAll h _

/-- An action has the same effect on limiting, whatever fails in it. -/
theorem resembles_after (h : Resembles s s') {a b : Action} (like : a.Resembles b) (quiet : a.Heeded)
    (quiet' : b.Heeded) : Resembles (s.after a) (s'.after b) := by
  cases like with
  | addSink => exact resembles_addSink h quiet quiet'
  | addCounter => exact { h with }
  | log l severity template args args' => exact resembles_log h l severity template args args'
  | logThrough t severity args args' => exact resembles_logThrough h t severity args args'
  | emit t args args' => exact resembles_emit h t args args'
  | same =>
    cases a with
    | addSink => exact resembles_addSink h quiet quiet
    | addStopwatch reading fault =>
      exact { h with
        stopwatches := congrArg (fun ws : Array Stopwatch => ws.push { reading, fault }) h.stopwatches }
    | addCounter => exact { h with }
    | openRoster => exact (together_openRoster h).2
    | build p => exact (together_build h p).2
    | move w m => exact (together_moveClock h w m).2
    | lookup l topic => exact (together_lookup h l topic).2
    | log l severity template args => exact resembles_log h l severity template args args
    | logThrough t severity args => exact resembles_logThrough h t severity args args
    | emit t args => exact resembles_emit h t args args
    | attempt t => exact (together_attempt h t).2
    | enrol r t => exact (together_enrol h r t).2
    | flush r => exact (together_flush h r).2
    | shutdown r => exact ((closing_resembles r).shutdown h).2
    | fire r period => exact (together_fire h r period).2
    | guard r => exact (together_hold h _).2
    | share l => exact (together_share h l).2
    | release x => exact ((closing_resembles x.roster).release h).2
    | resetTally l => exact h.changeTally l (f := fun _ => {}) fun _ => rfl

theorem resembles_run (h : Resembles s s') {as bs : List Action} (like : List.Forall₂ Action.Resembles as bs)
    (quiet : ∀ a ∈ as, a.Heeded) (quiet' : ∀ b ∈ bs, b.Heeded) : Resembles (s.run as) (s'.run bs) := by
  induction like generalizing s s' with
  | nil => exact h
  | cons first rest ih =>
    rw [List.forall_mem_cons] at quiet quiet'
    exact ih (resembles_after h first quiet.1 quiet'.1) quiet.2 quiet'.2

/-- Failures never change the limiting. Take two runs of the same calls on the same loggers, rosters and
stopwatches, in which sinks, counters and arguments fail at different places; only the warning of an
overflow is taken by every sink. After every call, the two agree on the count, mark and stamp of every
throttle, on the members and the epoch of every roster, and on the topics and tallies of every logger,
digests apart. -/
theorem run_limits_alike {as bs : List Action} (like : List.Forall₂ Action.Resembles as bs)
    (quiet : ∀ a ∈ as, a.Heeded) (quiet' : ∀ b ∈ bs, b.Heeded) (n : Nat) :
    let s := System.run {} (as.take n)
    let s' := System.run {} (bs.take n)
    s'.throttles = s.throttles ∧ s'.rosters = s.rosters ∧ s'.holders = s.holders ∧
      s'.loggers.size = s.loggers.size ∧ ∀ l,
        (s'.logger l).catalogue = (s.logger l).catalogue ∧
        (s'.logger l).tally.allowed = (s.logger l).tally.allowed ∧
        (s'.logger l).tally.suppressed = (s.logger l).tally.suppressed ∧
        (s'.logger l).tally.overflows = (s.logger l).tally.overflows := by
  intro s s'
  have empty : Resembles {} {} := ⟨rfl, rfl, rfl, rfl, rfl, fun _ => rfl, fun _ _ => rfl, fun _ _ => rfl⟩
  have alike : Resembles s s' := resembles_run empty (List.forall₂_take n like)
    (fun a ha => quiet a (List.mem_of_mem_take ha)) fun b hb => quiet' b (List.mem_of_mem_take hb)
  refine ⟨alike.throttles, alike.rosters, alike.holders, alike.loggers, fun l => ?_⟩
  have same := alike.logger l
  exact ⟨(congrArg Logger.catalogue same :), (congrArg (fun x : Logger => x.tally.allowed) same :),
    (congrArg (fun x : Logger => x.tally.suppressed) same :),
    (congrArg (fun x : Logger => x.tally.overflows) same :)⟩

/-- A sink that takes only the warning, a counter that never counts, and an argument that cannot be shown:
the limit of one is reached at the same call, and the logger overflows at the same call. -/
theorem run_limits_alike_unheard :
    let actions (sink : Nat → Line → Option Fault) (counter : Nat → String → Option Fault)
        (args : List Argument) : List Action :=
      [.addSink .filled sink, .addStopwatch .zero fun _ => none, .addCounter counter, .openRoster,
        .build ⟨0, 0, 0, some 0, 1, ⟨7, by decide⟩, 1⟩, .log 0 .info "x{}" args, .log 0 .info "x{}" args,
        .lookup 0 ⟨"y", none⟩, .log 0 .info "z{}" args, .log 0 .info "z{}" args]
    let as := actions (fun _ _ => none) (fun _ _ => none) [.integer 1]
    let bs := actions (fun _ line => if line = ⟨.warn, overflowWarning⟩ then none else some .wordless)
      (fun _ _ => some .wordless) [.faulty .wordless]
    let s := System.run {} as
    let s' := System.run {} bs
    (s'.throttles = s.throttles ∧ (s'.logger 0).tally.overflows = (s.logger 0).tally.overflows) ∧
      (s.throttle 2).limiter.count = 2 ∧ (s.throttle 2).limiter.isLimited = true ∧
      (s.logger 0).tally.overflows = 1 ∧ s'.journal.size < s.journal.size := by
  intro actions as bs s s'
  have like : List.Forall₂ Action.Resembles as bs :=
    .cons (.addSink ..) <| .cons (.same _) <| .cons (.addCounter ..) <| .cons (.same _) <| .cons (.same _) <|
      .cons (.log ..) <| .cons (.log ..) <| .cons (.same _) <| .cons (.log ..) <| .cons (.log ..) .nil
  have quiet : ∀ a ∈ as, a.Heeded := by simp [as, actions, Action.Heeded]
  have quiet' : ∀ b ∈ bs, b.Heeded := by simp [bs, actions, Action.Heeded]
  have whole : as.take 10 = as := rfl
  have whole' : bs.take 10 = bs := rfl
  have alike := run_limits_alike like quiet quiet' 10
  rw [whole, whole'] at alike
  obtain ⟨throttles, _, _, _, loggers⟩ := alike
  have overflows := (loggers 0).2.2.2
  refine ⟨⟨throttles, ?_⟩, by decide +kernel⟩
  simpa only [s, s'] using overflows

end System
end LogThrottle
