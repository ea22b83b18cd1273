import LogThrottle.Proofs.System.Composites
import LogThrottle.Proofs.System.Executions

/-! Frames. What the single changes of a computation keep, the computation keeps, wherever a fault ends it; so
each computation is walked through once, whatever the relation. -/
namespace LogThrottle

/-- What resets write: digests, reports of resets that failed, and the notice that a report failed too. -/
inductive Entry.OfReset : Entry → Prop where
  | digest (t : ThrottleId) (d : Digest) (k : SinkId) (line : Line) : OfReset (.line (.digest t d) k line)
  | failure (t : ThrottleId) (k : SinkId) (line : Line) : OfReset (.line (.failure t) k line)
  | unreported : OfReset (.notice .resetFailed)

namespace System
open Call
variable {α : Type} {W : Entry → Prop} {R : System → System → Prop} {t : ThrottleId}

/-- What is kept by writing entries of `W` and by asking sinks, stopwatches and counters. -/
structure Frame (W : Entry → Prop) (R : System → System → Prop) : Prop extends Chain R where
  wrote : ∀ {es s s'}, (∀ e ∈ es, W e) → Wrote es s s' → R s s'
  asked : ∀ (s : System) c name,
    R s { s with counters := s.counters.setIfInBounds c ((s.counter c).increment name).2 }

/-- What is also kept by a judgement on a throttle, by counting it and by lines of events. -/
structure Judging (t : ThrottleId) (W : Entry → Prop) (R : System → System → Prop) : Prop extends Frame W R where
  touch : ∀ s x, R s (setLimiter t x s)
  event : ∀ k line, W (.line (.event t) k line)
  countAllowed : ∀ s l, R s (changeTally l Tally.countAllowed s)
  countSuppressed : ∀ s l, R s (changeTally l Tally.countSuppressed s)

/-- What is also kept by all that a reset does once it has cleared its limiter. -/
structure Resetting (W : Entry → Prop) (R : System → System → Prop) : Prop extends Frame W R where
  ofReset : ∀ {e}, e.OfReset → W e
  countDigest : ∀ s l, R s (changeTally l Tally.countDigest s)

namespace Frame
variable (h : Frame W R)
include h

/-- A sink that fails has written nothing. -/
theorem deliver {o : Origin} {k : SinkId} {line : Line} (may : W (.line o k line)) :
    Keeps R (deliver o k line) := by
  intro s
  cases answer : (s.sink k).fault (s.sink k).calls line with
  | none =>
    obtain ⟨s', he, wrote⟩ := deliver_ok o answer
    rw [he]
    exact h.wrote (by simpa using may) wrote
  | some f =>
    obtain ⟨s', he, wrote⟩ := deliver_fault o answer
    rw [he]
    exact h.wrote (by simp) wrote

theorem deliverTemplate {o : Origin} {k : SinkId} (may : ∀ line, W (.line o k line)) (severity : Severity)
    (template : String) (args : List Argument) : Keeps R (deliverTemplate o k severity template args) :=
  h.bind h.get fun _ => h.bind (h.ofExcept _) fun _ => h.deliver (may _)

theorem readClock (w : StopwatchId) : Keeps R (readClock w) := by
  intro s
  obtain ⟨s', he, wrote⟩ := readClock_exec s w
  rw [he]
  exact h.wrote (by simp) wrote

theorem countCall (c : Option CounterId) (name : String) : Keeps R (countCall c name) := by
  cases c with
  | none => exact h.pure ()
  | some c =>
    intro s
    simp only [System.countCall, increment, exec_bind, exec_get, exec_modify, exec_ofExcept]
    exact h.asked s c name

theorem attempt (touch : ∀ s x, R s (setLimiter t x s)) : Keeps R (attempt t) := by
  apply h.bind h.get
  intro s
  apply h.bind h.get
  intro s'
  apply h.bind (keeps_modify fun s => touch s _)
  intro _
  cases Limiter.course (s'.logger (s.throttle t).logger).quota.limit
    (s.throttle t).limiter.ordinal (s.throttle t).limiter.bump with
  | pass => exact h.pure _
  | hold => exact h.pure _
  | mark =>
    dsimp only
    split
    · exact h.pure _
    · exact h.bind (h.readClock _) fun _ => h.bind (keeps_modify fun s => touch s _) fun _ => h.pure _

theorem enrol {r : RosterId} (scheduling : W (.notice .scheduling)) (enters : ∀ s, R s (enrolled r t s)) :
    Keeps R (enrol r t) := by
  intro s
  obtain ⟨s', he, wrote⟩ := enrol_exec r t s
  rw [he]
  exact h.trans (h.wrote (fun _ member => eq_of_mem_announcement member ▸ scheduling) wrote) (enters s')

theorem join (enrol : ∀ r, Keeps R (System.enrol r t)) : Keeps R (join t) := by
  intro s
  rw [join_exec]
  split
  · exact enrol _ s
  · exact h.refl s

end Frame

namespace Judging
variable (h : Judging t W R) (severity : Severity) (args : List Argument)
include h

/-- What follows the joining. -/
theorem joined_logThrough {s s' : System} (he : (join t).exec s = (.ok (), s')) :
    R s' ((logThrough t severity args).exec s).2 := by
  rw [System.logThrough, exec_bind, he]
  refine h.bind h.get (fun _ => ?_) s'
  apply h.bind h.get
  intro _
  apply h.bind (h.attempt h.touch)
  intro d
  cases d with
  | allow =>
    apply h.bind (keeps_modify fun s => h.countAllowed s _)
    intro _
    exact h.bind (h.deliverTemplate (h.event _) _ _ _) fun _ => h.countCall _ _
  | suppress => exact h.bind (keeps_modify fun s => h.countSuppressed s _) fun _ => h.countCall _ _

theorem logThrough (join : Keeps R (System.join t)) : Keeps R (logThrough t severity args) := by
  intro s
  obtain ⟨s', he, _⟩ := join_outcome t s
  have first := join s
  rw [he] at first
  exact h.trans first (h.joined_logThrough severity args he)

end Judging

namespace Resetting
variable (h : Resetting W R)
include h

theorem reportFailure (t : ThrottleId) (f : Fault) : Keeps R (reportFailure t f) := by
  apply h.bind h.get
  intro s
  apply h.bind h.get
  intro s'
  apply h.tryCatch (h.deliver (h.ofReset (.failure ..)))
  exact fun _ => keeps_modify fun s => h.wrote (by simpa using h.ofReset .unreported) (wrote_write _ s)

/-- A reset clears its limiter first. -/
private theorem digested (t : ThrottleId) (s : System) : R (setLimiter t .cleared s) ((reset t).exec s).2 := by
  simp only [reset, exec_bind, exec_get, exec_modify]
  split
  · exact h.refl _
  · refine h.bind (h.readClock _) (fun _ => ?_) (setLimiter t .cleared s)
    apply h.bind (h.deliver (h.ofReset (.digest ..)))
    intro _
    exact h.bind (keeps_modify fun s => h.countDigest s _) fun _ => h.pure _

theorem cleared_resetOrReport (t : ThrottleId) (s : System) :
    R (setLimiter t .cleared s) ((resetOrReport t).exec s).2 := by
  have first := h.digested t s
  rw [System.resetOrReport, exec_tryCatch, exec_discard]
  revert first
  rcases (reset t).exec s with ⟨f | _, s'⟩
  · exact fun first => h.trans first (h.reportFailure t f s')
  · exact id

theorem resetOrReport (clear : ∀ s, R s (setLimiter t .cleared s)) : Keeps R (resetOrReport t) :=
  fun s => h.trans (clear s) (h.cleared_resetOrReport t s)

theorem resetAll {ts : List ThrottleId} (clear : ∀ t ∈ ts, ∀ s, R s (setLimiter t .cleared s)) :
    Keeps R (resetAll ts) := h.toChain.resetAll fun t ht => h.resetOrReport (clear t ht)

theorem flush {r : RosterId} (begun : ∀ s, R s (drained r s)) (clear : ∀ t s, R s (setLimiter t .cleared s)) :
    Keeps R (flush r) := by
  intro s
  rw [flush_exec]
  exact h.trans (begun s) (h.resetAll (fun t _ => clear t) _)

end Resetting
end System
end LogThrottle
