import LogThrottle.System.Reach
import LogThrottle.System.Views

/-! Runs as lists of actions: taken apart at any point, and what every step keeps the run keeps. An action
that makes a part puts it after those that are there. -/
namespace LogThrottle.System
open Call
variable {P Q : System → Action → Prop}

section Making
variable (s : System)

theorem sink_addSink (style : Sink.Style) (fault : Nat → Line → Option Fault) (k : SinkId) :
    (s.after (.addSink style fault)).sink k = if k = s.sinks.size then { style, fault } else s.sink k :=
  getD_push ..

theorem stopwatch_addStopwatch (reading : Duration) (fault : Nat → Option Fault) (w : StopwatchId) :
    (s.after (.addStopwatch reading fault)).stopwatch w =
      if w = s.stopwatches.size then { reading, fault } else s.stopwatch w :=
  getD_push ..

theorem counter_addCounter (fault : Nat → String → Option Fault) (c : CounterId) :
    (s.after (.addCounter fault)).counter c = if c = s.counters.size then { fault } else s.counter c :=
  getD_push ..

theorem roster_openRoster (r : RosterId) :
    (s.after .openRoster).roster r = if r = s.rosters.size then {} else s.roster r :=
  getD_push ..

theorem after_build (p : Plan) : s.after (.build p) = match p.logger with
    | .error _ => s
    | .ok x => { s with
        loggers := s.loggers.push x
        holders := ⟨.logger s.loggers.size, p.roster⟩ :: s.holders } := by
  have same : s.after (.build p) = ((build p).exec s).2 := rfl
  rw [same, build]
  cases p.logger <;> rfl

theorem after_move (w : StopwatchId) (m : Stopwatch.Move) : s.after (.move w m) =
    { s with stopwatches := s.stopwatches.setIfInBounds w ((s.stopwatch w).move m).2 } := by
  simp only [after, Action.perform, moveClock, exec_bind, exec_get, exec_modify, exec_ofExcept]

end Making

theorem run_append (s : System) (as bs : List Action) : s.run (as ++ bs) = (s.run as).run bs :=
  List.foldl_append

theorem run_snoc (s : System) (as : List Action) (a : Action) :
    s.run (as ++ [a]) = (s.run as).after a := run_append ..

theorem along_append {s : System} {as bs : List Action} :
    s.Along P (as ++ bs) ↔ s.Along P as ∧ (s.run as).Along P bs := by
  induction as generalizing s with
  | nil => simp [Along, run]
  | cons a as ih =>
    rw [List.cons_append, Along, Along, ih, and_assoc]
    rfl

theorem along_snoc {s : System} {as : List Action} {a : Action} :
    s.Along P (as ++ [a]) ↔ s.Along P as ∧ P (s.run as) a := by
  rw [along_append]
  simp [Along]

theorem Along.mono {s : System} {as : List Action} (h : s.Along P as) (le : ∀ s a, P s a → Q s a) :
    s.Along Q as := by
  induction as generalizing s with
  | nil => trivial
  | cons a as ih => exact ⟨le s a h.1, ih h.2⟩

theorem Along.and {s : System} {as : List Action} (h : s.Along P as) (h' : s.Along Q as) :
    s.Along (fun s a => P s a ∧ Q s a) as := by
  induction as generalizing s with
  | nil => trivial
  | cons a as ih => exact ⟨⟨h.1, h'.1⟩, ih h.2 h'.2⟩

theorem along_of_forall {P : Action → Prop} {as : List Action} (h : ∀ a ∈ as, P a) (s : System) :
    s.Along (fun _ a => P a) as := by
  induction as generalizing s with
  | nil => trivial
  | cons a as ih => exact ⟨h a List.mem_cons_self, ih (fun b hb => h b (List.mem_cons_of_mem a hb)) _⟩

/-- What holds at first and is kept by every step holds after the run. -/
theorem Along.keeps {I : System → Prop} {s : System} {as : List Action} (h : s.Along P as)
    (first : I s) (step : ∀ s a, I s → P s a → I (s.after a)) : I (s.run as) := by
  induction as generalizing s with
  | nil => exact first
  | cons a as ih => exact ih h.2 (step s a first h.1)

end LogThrottle.System
