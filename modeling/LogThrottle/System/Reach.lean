import LogThrottle.System.Action

/-! Which actions callers can do, and the systems that they can bring about. A fault ends its
action, is caught by the caller, and the run goes on. -/
namespace LogThrottle

/-- A logger can be used while itself or a clone of it is held. -/
def System.loggerHeld (s : System) (l : LoggerId) : Prop :=
  ∃ h ∈ s.holders, h.kind = .logger l

/-- The parts that an action names exist, and what has to be held is held. -/
def Action.Ready (s : System) : Action → Prop
  | addSink .. | addStopwatch .. | addCounter _ | openRoster => True
  | build p => s.alive p.roster ∧ p.sink < s.sinks.size ∧ p.stopwatch < s.stopwatches.size ∧
      ∀ c ∈ p.counter, c < s.counters.size
  | move w _ => w < s.stopwatches.size
  | lookup l _ | log l .. | share l | resetTally l => s.loggerHeld l
  | logThrough t .. | emit t _ | attempt t => t < s.throttles.size
  | enrol r t => s.alive r ∧ t < s.throttles.size
  | flush r | shutdown r | guard r => s.alive r
  | fire r _ => r < s.rosters.size
  | release h => h ∈ s.holders

instance (s : System) (l : LoggerId) : Decidable (s.loggerHeld l) :=
  inferInstanceAs (Decidable (∃ h ∈ s.holders, h.kind = .logger l))

instance (s : System) : (a : Action) → Decidable (a.Ready s)
  | .addSink .. | .addStopwatch .. | .addCounter _ | .openRoster => isTrue trivial
  | .build p => inferInstanceAs (Decidable (s.alive p.roster ∧ p.sink < s.sinks.size ∧
      p.stopwatch < s.stopwatches.size ∧ ∀ c ∈ p.counter, c < s.counters.size))
  | .move w _ => inferInstanceAs (Decidable (w < s.stopwatches.size))
  | .lookup l _ | .log l .. | .share l | .resetTally l => inferInstanceAs (Decidable (s.loggerHeld l))
  | .logThrough t .. | .emit t _ | .attempt t => inferInstanceAs (Decidable (t < s.throttles.size))
  | .enrol r t => inferInstanceAs (Decidable (s.alive r ∧ t < s.throttles.size))
  | .flush r | .shutdown r | .guard r => inferInstanceAs (Decidable (s.alive r))
  | .fire r _ => inferInstanceAs (Decidable (r < s.rosters.size))
  | .release h => inferInstanceAs (Decidable (h ∈ s.holders))

namespace System

inductive Reachable : System → Prop where
  | empty : Reachable {}
  | after {s : System} (a : Action) : Reachable s → a.Ready s → Reachable (s.after a)

/-- Something holds of every action of a run and the system that it meets when its turn comes. -/
def Along (P : System → Action → Prop) (s : System) : List Action → Prop
  | [] => True
  | a :: as => P s a ∧ Along P (s.after a) as

instance decidableAlong (P : System → Action → Prop) [∀ s a, Decidable (P s a)] :
    (s : System) → (as : List Action) → Decidable (s.Along P as)
  | _, [] => isTrue trivial
  | s, a :: as => @instDecidableAnd _ _ inferInstance (decidableAlong P (s.after a) as)

/-- Every action of a run is ready when its turn comes. -/
def Feasible (s : System) (as : List Action) : Prop := s.Along (fun s a => a.Ready s) as

instance (s : System) (as : List Action) : Decidable (s.Feasible as) :=
  decidableAlong (fun s a => a.Ready s) s as

theorem reachable_run {s : System} (as : List Action) (hs : Reachable s) (h : s.Feasible as) :
    Reachable (s.run as) := by
  induction as generalizing s with
  | nil => exact hs
  | cons a as ih => exact ih (.after a hs h.1) h.2

end System
end LogThrottle
