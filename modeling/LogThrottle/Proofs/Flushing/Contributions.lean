import LogThrottle.Proofs.System.Ticking

/-! What the reset of one throttle comes to where sinks and stopwatches may fail at any call: nothing, its
digest, or the report that it failed. Which of them is decided by the calls that the reset makes. -/
namespace LogThrottle

inductive Contribution where
  | nothing
  | digest (d : Digest)
  /-- The reset failed, and the sink took the report of that or failed again. -/
  | failure (f : Fault) (reported : Bool)
  deriving DecidableEq

def Contribution.isDigest : Contribution → Bool
  | digest _ => true
  | _ => false

namespace System
open Call

/-- The sink of a throttle's logger. -/
def outlet (s : System) (t : ThrottleId) : SinkId := (s.logger (s.throttle t).logger).sink

/-- The stopwatch of a throttle's logger. -/
def clock (s : System) (t : ThrottleId) : StopwatchId := (s.logger (s.throttle t).logger).stopwatch

/-- A throttle is limited, and has counted more events than its limit. -/
def Exceeded (s : System) (t : ThrottleId) : Prop :=
  (s.throttle t).limiter.isLimited = true ∧ (s.limit t).toNat < (s.throttle t).limiter.count.toNat

instance (s : System) (t : ThrottleId) : Decidable (s.Exceeded t) := instDecidableAnd

/-- The digest of a throttle that has exceeded its limit, at a reading of the stopwatch. -/
def digestAt (s : System) (t : ThrottleId) (now : Duration) : Digest :=
  ⟨(s.throttle t).topic, .ofNat ((s.throttle t).limiter.count.toNat - (s.limit t).toNat),
    (s.throttle t).limiter.sinceMark now.clockMillis⟩

/-- How a sink answers a line at the call of a given number. -/
def answerAt (s : System) (k : SinkId) (n : Nat) (line : Line) : Option Fault := (s.sink k).fault n line

def digestLine (s : System) (t : ThrottleId) (d : Digest) : Line := ⟨(s.throttle t).topic.voice, d.text⟩

def failureLine (s : System) (t : ThrottleId) (f : Fault) : Line := ⟨.warn, failureMessage (s.throttle t).topic f⟩

/-- What the reset of a throttle comes to. A sink that refuses the digest is called once more, for the
report. -/
inductive Contributes (s : System) (t : ThrottleId) : Contribution → Prop where
  | nothing (within : ¬s.Exceeded t) : Contributes s t .nothing
  | digest {now : Duration} (exceeded : s.Exceeded t) (read : (s.stopwatch (s.clock t)).read.1 = .ok now)
      (taken : s.answerAt (s.outlet t) (s.sink (s.outlet t)).calls (s.digestLine t (s.digestAt t now)) = none) :
      Contributes s t (.digest (s.digestAt t now))
  | unread {f : Fault} (exceeded : s.Exceeded t) (read : (s.stopwatch (s.clock t)).read.1 = .error f) :
      Contributes s t (.failure f
        (s.answerAt (s.outlet t) (s.sink (s.outlet t)).calls (s.failureLine t f)).isNone)
  | refused {now : Duration} {f : Fault} (exceeded : s.Exceeded t)
      (read : (s.stopwatch (s.clock t)).read.1 = .ok now)
      (refused : s.answerAt (s.outlet t) (s.sink (s.outlet t)).calls (s.digestLine t (s.digestAt t now)) = some f) :
      Contributes s t (.failure f
        (s.answerAt (s.outlet t) ((s.sink (s.outlet t)).calls + 1) (s.failureLine t f)).isNone)

/-- What a contribution writes. A failure that is not reported leaves a notice. -/
def contributed (s : System) (t : ThrottleId) : Contribution → List Entry
  | .nothing => []
  | .digest d => [.line (.digest t d) (s.outlet t) (s.digestLine t d)]
  | .failure f true => [.line (.failure t) (s.outlet t) (s.failureLine t f)]
  | .failure _ false => [.notice .resetFailed]

/-- A limiter cleared, and a digest counted if there was one. -/
def settled (t : ThrottleId) (c : Contribution) (s : System) : System :=
  if c.isDigest then changeTally (s.throttle t).logger Tally.countDigest (setLimiter t .cleared s)
  else setLimiter t .cleared s

variable {t : ThrottleId} {s s' : System}

theorem withheld_eq_zero_iff : (s.throttle t).limiter.withheld (s.limit t) = 0 ↔ ¬s.Exceeded t := by
  rw [Exceeded, not_and]
  by_cases limited : (s.throttle t).limiter.isLimited = true
  · rw [← UInt64.toNat_inj, Limiter.withheld_toNat _ _ limited, UInt64.toNat_zero]
    simp only [limited, true_imp_iff]
    omega
  · simp [Limiter.withheld, limited]

theorem withheld_of_exceeded (h : s.Exceeded t) : (s.throttle t).limiter.withheld (s.limit t) =
    .ofNat ((s.throttle t).limiter.count.toNat - (s.limit t).toNat) := if_pos h.1

/-- A throttle that has exceeded its limit: what is left of its reset once the limiter is cleared. -/
private theorem reset_exceeded (exceeded : s.Exceeded t) : (reset t).exec s =
    (do
      let now ← readClock (s.clock t)
      let d : Digest := ⟨(s.throttle t).topic, .ofNat ((s.throttle t).limiter.count.toNat - (s.limit t).toNat),
        (s.throttle t).limiter.sinceMark now⟩
      deliver (.digest t d) (s.outlet t) (s.digestLine t d)
      modify (changeTally (s.throttle t).logger Tally.countDigest)
      return some d : Call (Option Digest)).exec (setLimiter t .cleared s) := by
  have some : (s.throttle t).limiter.withheld (s.limit t) ≠ 0 := fun zero => withheld_eq_zero_iff.mp zero exceeded
  rw [withheld_of_exceeded exceeded] at some
  have number := withheld_of_exceeded exceeded
  simp only [limit] at some number
  simp only [reset, exec_bind, exec_get, exec_modify, number, some, if_false, clock, outlet, digestLine, limit]

private theorem reset_within (within : ¬s.Exceeded t) :
    (reset t).exec s = (.ok none, setLimiter t .cleared s) := by
  have none := withheld_eq_zero_iff.mpr within
  rw [limit] at none
  simp only [reset, exec_bind, exec_get, exec_modify, none, if_true, exec_pure]

/-- Its stopwatch is read, and no sink is asked. -/
private theorem readClock_cleared (t : ThrottleId) (s : System) :
    ∃ s₁, (readClock (s.clock t)).exec (setLimiter t .cleared s) =
        ((s.stopwatch (s.clock t)).read.1.map Duration.clockMillis, s₁) ∧
      Wrote [] (setLimiter t .cleared s) s₁ ∧ ∀ k, s₁.sink k = s.sink k := by
  obtain ⟨s₁, he, read⟩ := readClock_exec (setLimiter t .cleared s) (s.clock t)
  refine ⟨s₁, he, read, fun k => ?_⟩
  have unasked : ((readClock (s.clock t)).exec (setLimiter t .cleared s)).2.sinks = s.sinks := by
    simp only [readClock, exec_bind, exec_get, exec_modify, exec_map, exec_ofExcept]
    rfl
  rw [he] at unasked
  rw [sink, unasked, sink]

/-- A sink that refused a line was called once. -/
private theorem calls_of_refused {k : SinkId} {line : Line} {f : Fault} (o : Origin)
    (refused : (s.sink k).fault (s.sink k).calls line = some f) :
    (((deliver o k line).exec s).2.sink k).calls = (s.sink k).calls + 1 := by
  have made : k < s.sinks.size := Classical.byContradiction fun unmade => by
    rw [sink, getD_of_size_le (Nat.not_lt.mp unmade)] at refused
    cases refused
  simp only [deliver, Sink.offer, refused, exec_bind, exec_get, exec_modify, exec_ofExcept]
  rw [sink, getD_setIfInBounds, if_pos ⟨rfl, made⟩]

private theorem reportFailure_exec (t : ThrottleId) (f : Fault) (s : System) :
    ∃ s', (reportFailure t f).exec s = (.ok (), s') ∧ Wrote (s.contributed t (.failure f
      (s.answerAt (s.outlet t) (s.sink (s.outlet t)).calls (s.failureLine t f)).isNone)) s s' := by
  simp only [reportFailure, exec_bind, exec_get, exec_tryCatch, exec_modify]
  cases answer : s.answerAt (s.outlet t) (s.sink (s.outlet t)).calls (s.failureLine t f) with
  | none =>
    obtain ⟨s', he, wrote⟩ := deliver_ok (.failure t) answer
    simp only [outlet, failureLine] at he
    rw [he]
    exact ⟨s', rfl, wrote⟩
  | some g =>
    obtain ⟨s', he, wrote⟩ := deliver_fault (.failure t) answer
    simp only [outlet, failureLine] at he
    rw [he]
    exact ⟨_, rfl, wrote.trans (wrote_write (.notice .resetFailed) s')⟩

/-- What a contribution writes hangs on nothing that resets change. -/
theorem Told.contributed_eq {es : List Entry} (h : Told es s s') (t : ThrottleId) :
    s'.contributed t = s.contributed t := by
  have outlet : s'.outlet t = s.outlet t := h.sink_eq t
  funext c
  cases c with
  | nothing => rfl
  | digest d => rw [contributed, outlet, digestLine, h.topic_eq, contributed, digestLine]
  | failure f reported => cases reported with
    | true => rw [contributed, outlet, failureLine, h.topic_eq, contributed, failureLine]
    | false => rfl

/-- The report is made by a system that differs from the first in the limiter and in how often sinks and
stopwatches were called. -/
private theorem reportFailure_cleared {s₁ : System} (cleared : Wrote [] (setLimiter t .cleared s) s₁) (f : Fault)
    {n : Nat} (calls : (s₁.sink (s.outlet t)).calls = n) :
    ∃ s', (reportFailure t f).exec s₁ = (.ok (), s') ∧
      Wrote (s.contributed t (.failure f (s.answerAt (s.outlet t) n (s.failureLine t f)).isNone))
        (setLimiter t .cleared s) s' := by
  have told : Told [] s s₁ := (Told.setLimiter s t .cleared).trans cleared.told
  have outlet : s₁.outlet t = s.outlet t := told.sink_eq t
  have fault : (s₁.sink (s.outlet t)).fault = (s.sink (s.outlet t)).fault := (congrArg Sink.fault (told.sink _) :)
  obtain ⟨s', he, wrote⟩ := reportFailure_exec t f s₁
  rw [told.contributed_eq, outlet, answerAt, fault, calls, failureLine, told.topic_eq] at wrote
  exact ⟨s', he, cleared.trans wrote⟩

/-- A reset never fails as a whole, and contributes what its calls come to. -/
theorem resetOrReport_contributes (t : ThrottleId) (s : System) :
    ∃ c s', (resetOrReport t).exec s = (.ok (), s') ∧ s.Contributes t c ∧
      Wrote (s.contributed t c) (settled t c s) s' := by
  rw [resetOrReport, exec_tryCatch, exec_discard]
  by_cases exceeded : s.Exceeded t
  · obtain ⟨s₁, he, read, sink⟩ := readClock_cleared t s
    rw [reset_exceeded exceeded, exec_bind, he]
    cases shown : (s.stopwatch (s.clock t)).read.1 with
    | error f =>
      obtain ⟨s', reported, wrote⟩ := reportFailure_cleared read f (congrArg Sink.calls (sink (s.outlet t)))
      exact ⟨_, s', reported, .unread exceeded shown, wrote⟩
    | ok now =>
      have same : (s₁.sink (s.outlet t)).fault (s₁.sink (s.outlet t)).calls (s.digestLine t (s.digestAt t now)) =
          s.answerAt (s.outlet t) (s.sink (s.outlet t)).calls (s.digestLine t (s.digestAt t now)) := by
        rw [sink, answerAt]
      cases answer : s.answerAt (s.outlet t) (s.sink (s.outlet t)).calls (s.digestLine t (s.digestAt t now)) with
      | none =>
        obtain ⟨s₂, he₂, wrote⟩ := deliver_ok (.digest t (s.digestAt t now)) (same.trans answer)
        have both := (read.trans wrote).changeTally (s.throttle t).logger Tally.countDigest
        refine ⟨.digest (s.digestAt t now), _, ?_, .digest exceeded shown answer, both⟩
        simp only [digestAt] at he₂
        simp only [Except.map, exec_bind, he₂, exec_modify, exec_pure]
      | some f =>
        obtain ⟨s₂, he₂, wrote⟩ := deliver_fault (.digest t (s.digestAt t now)) (same.trans answer)
        have calls := calls_of_refused (.digest t (s.digestAt t now)) (same.trans answer)
        rw [he₂, sink] at calls
        obtain ⟨s', reported, wrote'⟩ := reportFailure_cleared (read.trans wrote) f calls
        refine ⟨_, s', ?_, .refused exceeded shown answer, wrote'⟩
        simp only [digestAt] at he₂
        simp only [Except.map, exec_bind, he₂]
        exact reported
  · rw [reset_within exceeded]
    exact ⟨.nothing, _, rfl, .nothing exceeded, .refl _⟩

end System
end LogThrottle
