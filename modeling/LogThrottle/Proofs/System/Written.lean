import LogThrottle.Proofs.System.Keeping
import LogThrottle.System.Delivery
import LogThrottle.System.Views

/-! Dealings with the outside: sinks, stopwatches and counters remember that they were called, and
the journal grows. -/
namespace LogThrottle.System

/-- One system is the other after some lines and notices were written. What else may differ is how
often sinks, stopwatches and counters were called. -/
structure Wrote (es : List Entry) (s s' : System) : Prop where
  rosters : s'.rosters = s.rosters
  loggers : s'.loggers = s.loggers
  throttles : s'.throttles = s.throttles
  holders : s'.holders = s.holders
  journal : s'.journal.toList = s.journal.toList ++ es
  sink : ∀ k, { s'.sink k with calls := 0 } = { s.sink k with calls := 0 }
  stopwatch : ∀ w, { s'.stopwatch w with reads := 0 } = { s.stopwatch w with reads := 0 }
  counter : ∀ c, { s'.counter c with calls := 0 } = { s.counter c with calls := 0 }
  sizes : s'.sinks.size = s.sinks.size ∧ s'.stopwatches.size = s.stopwatches.size ∧
    s'.counters.size = s.counters.size

namespace Wrote
variable {es fs : List Entry} {s s' s'' : System}

theorem refl (s : System) : Wrote [] s s :=
  ⟨rfl, rfl, rfl, rfl, (List.append_nil _).symm, fun _ => rfl, fun _ => rfl, fun _ => rfl,
    rfl, rfl, rfl⟩

theorem trans (h : Wrote es s s') (h' : Wrote fs s' s'') : Wrote (es ++ fs) s s'' where
  rosters := h'.rosters.trans h.rosters
  loggers := h'.loggers.trans h.loggers
  throttles := h'.throttles.trans h.throttles
  holders := h'.holders.trans h.holders
  journal := by rw [h'.journal, h.journal, List.append_assoc]
  sink k := (h'.sink k).trans (h.sink k)
  stopwatch w := (h'.stopwatch w).trans (h.stopwatch w)
  counter c := (h'.counter c).trans (h.counter c)
  sizes := ⟨h'.sizes.1.trans h.sizes.1, h'.sizes.2.1.trans h.sizes.2.1,
    h'.sizes.2.2.trans h.sizes.2.2⟩

end Wrote

theorem wrote_write (e : Entry) (s : System) : Wrote [e] s (write e s) :=
  ⟨rfl, rfl, rfl, rfl, Array.toList_push, fun _ => rfl, fun _ => rfl, fun _ => rfl, rfl, rfl, rfl⟩

/-- A sink that was offered lines some more times. -/
def asked (k : SinkId) (n : Nat) (s : System) : System :=
  { s with sinks := s.sinks.modify k fun x => { x with calls := x.calls + n } }

/-- A stopwatch that was read some more times. -/
def clocked (w : StopwatchId) (n : Nat) (s : System) : System :=
  { s with stopwatches := s.stopwatches.modify w fun x => { x with reads := x.reads + n } }

/-- An external counter one higher at a name. -/
def countUp (c : CounterId) (name : String) (s : System) : System :=
  { s with counters := s.counters.setIfInBounds c ((s.counter c).raised name) }

theorem counter_countUp (c i : CounterId) (name : String) (s : System) :
    (countUp c name s).counter i =
      if c = i ∧ i < s.counters.size then (s.counter c).raised name else s.counter i :=
  getD_setIfInBounds ..

private def askCounter (c : CounterId) (x : Counter) (s : System) : System :=
  { s with counters := s.counters.setIfInBounds c { x with calls := x.calls + 1 } }

theorem wrote_asked (k : SinkId) (n : Nat) (s : System) : Wrote [] s (asked k n s) := by
  refine { Wrote.refl s with sink := fun i => ?_, sizes := ⟨Array.size_modify, rfl, rfl⟩ }
  rw [sink, asked, getD_modify]
  split <;> rfl

theorem wrote_clocked (w : StopwatchId) (n : Nat) (s : System) : Wrote [] s (clocked w n s) := by
  refine { Wrote.refl s with stopwatch := fun i => ?_, sizes := ⟨rfl, Array.size_modify, rfl⟩ }
  rw [stopwatch, clocked, getD_modify]
  split <;> rfl

private theorem wrote_askCounter (s : System) (c : CounterId) (x : Counter) :
    Wrote [] { s with counters := s.counters.setIfInBounds c x } (askCounter c x s) := by
  refine ⟨rfl, rfl, rfl, rfl, (List.append_nil _).symm, fun _ => rfl, fun _ => rfl, fun i => ?_,
    rfl, rfl, ?_⟩
  · simp only [counter, askCounter, getD_setIfInBounds]
    split <;> rfl
  · simp only [askCounter, Array.size_setIfInBounds]

open Call

theorem exec_deliver (o : Origin) (k : SinkId) (line : Line) (s : System) : (deliver o k line).exec s =
    match (s.sink k).fault (s.sink k).calls line with
    | none => (.ok (), write (.line o k line) (asked k 1 s))
    | some f => (.error f, asked k 1 s) := by
  have moved : s.sinks.setIfInBounds k { s.sink k with calls := (s.sink k).calls + 1 } = (asked k 1 s).sinks :=
    setIfInBounds_getD s.sinks k (fun x => { x with calls := x.calls + 1 }) default
  simp only [deliver, Sink.offer, exec_bind, exec_get, exec_modify, exec_ofExcept, moved]
  cases (s.sink k).fault (s.sink k).calls line <;> rfl

theorem exec_readClock (w : StopwatchId) (s : System) : (readClock w).exec s =
    ((s.stopwatch w).read.1.map Duration.clockMillis, clocked w 1 s) := by
  have read : (s.stopwatch w).read.2 = { s.stopwatch w with reads := (s.stopwatch w).reads + 1 } := by
    unfold Stopwatch.read
    split
    · rfl
    · split <;> rfl
  have moved : s.stopwatches.setIfInBounds w (s.stopwatch w).read.2 = (clocked w 1 s).stopwatches := by
    rw [read]
    exact setIfInBounds_getD s.stopwatches w (fun x => { x with reads := x.reads + 1 }) default
  simp only [readClock, exec_bind, exec_get, exec_modify, exec_map, exec_ofExcept, moved]
  rfl

/-- A sink that raises nothing takes the line. -/
theorem deliver_ok {s : System} {k : SinkId} {line : Line} (o : Origin)
    (h : (s.sink k).fault (s.sink k).calls line = none) :
    ∃ s', (deliver o k line).exec s = (.ok (), s') ∧ Wrote [.line o k line] s s' := by
  refine ⟨write (.line o k line) (asked k 1 s), ?_, (wrote_asked k 1 s).trans (wrote_write _ _)⟩
  rw [exec_deliver, h]

/-- A sink that raises a fault has not taken the line. -/
theorem deliver_fault {s : System} {k : SinkId} {line : Line} {f : Fault} (o : Origin)
    (h : (s.sink k).fault (s.sink k).calls line = some f) :
    ∃ s', (deliver o k line).exec s = (.error f, s') ∧ Wrote [] s s' := by
  refine ⟨asked k 1 s, ?_, wrote_asked k 1 s⟩
  rw [exec_deliver, h]

theorem readClock_exec (s : System) (w : StopwatchId) :
    ∃ s', (readClock w).exec s = ((s.stopwatch w).read.1.map Duration.clockMillis, s') ∧
      Wrote [] s s' :=
  ⟨clocked w 1 s, exec_readClock w s, wrote_clocked w 1 s⟩

theorem increment_ok {s : System} {c : CounterId} {name : String}
    (h : (s.counter c).fault (s.counter c).calls name = none) :
    ∃ s', (increment c name).exec s = (.ok (), s') ∧ Wrote [] (countUp c name s) s' := by
  refine ⟨askCounter c ((s.counter c).raised name) s, ?_, wrote_askCounter s c _⟩
  simp only [increment, Counter.increment, h, exec_bind, exec_get, exec_modify, exec_ofExcept,
    askCounter, Counter.raised]

end LogThrottle.System
