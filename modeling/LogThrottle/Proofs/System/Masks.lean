import LogThrottle.Counter
import LogThrottle.Proofs.Templates.Filling
import LogThrottle.Sink
import LogThrottle.Stopwatch

/-! Masks for faults. A sink, a stopwatch, a counter or an argument that a mask has changed does what it did
before, unless it would have raised a fault that the mask hides. -/
namespace LogThrottle

/-- Other faults for sinks, stopwatches, counters and arguments. Where `hides` holds some may be taken away, but none
is ever added. -/
structure Mask (hides : Prop) where
  offers : (Nat → Line → Option Fault) → Nat → Line → Option Fault
  reads : (Nat → Option Fault) → Nat → Option Fault
  counts : (Nat → String → Option Fault) → Nat → String → Option Fault
  shows : Argument → Argument
  offers_eq : ∀ fault n line, (hides ∧ fault n line ≠ none) ∨ offers fault n line = fault n line
  reads_eq : ∀ fault n, (hides ∧ fault n ≠ none) ∨ reads fault n = fault n
  counts_eq : ∀ fault n name, (hides ∧ fault n name ≠ none) ∨ counts fault n name = fault n name
  shows_eq : ∀ x, (hides ∧ x.written.isOk = false) ∨ (shows x).written = x.written

namespace Mask
variable {hides : Prop} (m : Mask hides)

def sink (x : Sink) : Sink := { x with fault := m.offers x.fault }

def stopwatch (x : Stopwatch) : Stopwatch := { x with fault := m.reads x.fault }

def counter (x : Counter) : Counter := { x with fault := m.counts x.fault }

theorem sink_default : m.sink default = default := by
  have none : m.offers (fun _ _ => none) = fun _ _ => none := by
    funext n line
    exact (m.offers_eq _ n line).resolve_left fun fires => fires.2 rfl
  exact congrArg (fun fault => { (default : Sink) with fault }) none

theorem stopwatch_default : m.stopwatch default = default := by
  have none : m.reads (fun _ => none) = fun _ => none := by
    funext n
    exact (m.reads_eq _ n).resolve_left fun fires => fires.2 rfl
  exact congrArg (fun fault => { (default : Stopwatch) with fault }) none

theorem counter_default : m.counter default = default := by
  have none : m.counts (fun _ _ => none) = fun _ _ => none := by
    funext n name
    exact (m.counts_eq _ n name).resolve_left fun fires => fires.2 rfl
  exact congrArg (fun fault => { (default : Counter) with fault }) none

theorem offer_eq (x : Sink) (line : Line) : (hides ∧ (x.offer line).1.isOk = false) ∨
    (m.sink x).offer line = ((x.offer line).1, m.sink (x.offer line).2) := by
  obtain ⟨hidden, fires⟩ | same := m.offers_eq x.fault x.calls line
  · refine .inl ⟨hidden, ?_⟩
    obtain ⟨f, fires⟩ := Option.ne_none_iff_exists'.mp fires
    simp only [Sink.offer, fires]
    rfl
  · exact .inr (by simp only [Sink.offer, sink, same])

theorem read_eq (x : Stopwatch) : (hides ∧ x.read.1.isOk = false) ∨
    (m.stopwatch x).read = (x.read.1, m.stopwatch x.read.2) := by
  cases broken : x.broken with
  | true => exact .inr (by simp only [Stopwatch.read, stopwatch, broken, if_true])
  | false =>
    obtain ⟨hidden, fires⟩ | same := m.reads_eq x.fault x.reads
    · refine .inl ⟨hidden, ?_⟩
      obtain ⟨f, fires⟩ := Option.ne_none_iff_exists'.mp fires
      simp only [Stopwatch.read, broken, fires]
      rfl
    · refine .inr ?_
      simp only [Stopwatch.read, stopwatch, broken, same]
      cases x.fault x.reads <;> rfl

theorem increment_eq (x : Counter) (name : String) : (hides ∧ (x.increment name).1.isOk = false) ∨
    (m.counter x).increment name = ((x.increment name).1, m.counter (x.increment name).2) := by
  obtain ⟨hidden, fires⟩ | same := m.counts_eq x.fault x.calls name
  · refine .inl ⟨hidden, ?_⟩
    obtain ⟨f, fires⟩ := Option.ne_none_iff_exists'.mp fires
    simp only [Counter.increment, fires]
    rfl
  · refine .inr ?_
    simp only [Counter.increment, counter, same]
    cases x.fault x.calls name <;> rfl

/-- A move asks for no fault. -/
theorem move_eq (x : Stopwatch) (move : Stopwatch.Move) :
    (m.stopwatch x).move move = ((x.move move).1, m.stopwatch (x.move move).2) := by
  obtain ⟨reading, broken, reads, fault⟩ := x
  cases move with
  | set d => cases broken <;> rfl
  | advance d =>
    cases broken with
    | true => rfl
    | false =>
      simp only [Stopwatch.move, Stopwatch.advance, stopwatch]
      cases reading.add? d <;> rfl

private theorem isOk_map {α β : Type} (f : α → β) (e : Except Fault α) : (f <$> e).isOk = e.isOk := by
  cases e <;> rfl

private theorem isOk_bind {α β : Type} {e : Except Fault α} (f : α → Except Fault β) (fails : e.isOk = false) :
    (e >>= f).isOk = false := by
  cases e with
  | error => rfl
  | ok => cases fails

private theorem mapM_written_eq (args : List Argument) : (hides ∧ (args.mapM Argument.written).isOk = false) ∨
    (args.map m.shows).mapM Argument.written = args.mapM Argument.written := by
  induction args with
  | nil => exact .inr rfl
  | cons x args ih =>
    rw [List.map_cons, List.mapM_cons, List.mapM_cons]
    cases written : x.written with
    | error f =>
      obtain ⟨hidden, _⟩ | same := m.shows_eq x
      · exact .inl ⟨hidden, rfl⟩
      · exact .inr (by rw [same, written]; rfl)
    | ok text =>
      have same := (m.shows_eq x).resolve_left fun fails => by simp [written, Except.isOk, Except.toBool] at fails
      rw [same, written]
      obtain ⟨hidden, fails⟩ | rest := ih
      · exact .inl ⟨hidden, isOk_bind (e := args.mapM Argument.written) _ fails⟩
      · exact .inr (by rw [rest])

theorem render_eq (style : Sink.Style) (template : String) (args : List Argument) :
    (hides ∧ (style.render template args).isOk = false) ∨
      style.render template (args.map m.shows) = style.render template args := by
  have filled : (hides ∧ (Template.Filled.text <$> Template.fill template args).isOk = false) ∨
      Template.fill template (args.map m.shows) = Template.fill template args := by
    simp only [Template.fill, List.isEmpty_map]
    split
    · exact .inr rfl
    · simp only [Template.fillChars_eq, ← List.map_take]
      obtain ⟨hidden, fails⟩ | same :=
        m.mapM_written_eq (args.take ((Template.pieces template.toList).length - 1))
      · rw [isOk_map]
        exact .inl ⟨hidden, isOk_bind _ ((isOk_map _ _).trans fails)⟩
      · exact .inr (by rw [same])
  have rendered := filled.imp id (congrArg (Template.Filled.text <$> ·))
  cases style with
  | filled => exact rendered
  | traced => exact rendered
  | itemised =>
    obtain ⟨hidden, fails⟩ | same := m.mapM_written_eq args
    · exact .inl ⟨hidden, isOk_bind _ fails⟩
    · exact .inr (by simp only [Sink.Style.render, Template.itemise, same])

/-- All faults stay. -/
def clear : Mask False where
  offers fault := fault
  reads fault := fault
  counts fault := fault
  shows x := x
  offers_eq _ _ _ := .inr rfl
  reads_eq _ _ := .inr rfl
  counts_eq _ _ _ := .inr rfl
  shows_eq _ := .inr rfl

/-- No fault stays, and arguments that would raise one are empty texts. -/
def faultless : Mask True where
  offers _ _ _ := none
  reads _ _ := none
  counts _ _ _ := none
  shows x := match x with
    | .faulty _ => .text ""
    | x => x
  offers_eq fault n line := (Classical.em (fault n line = none)).symm.imp (⟨trivial, ·⟩) Eq.symm
  reads_eq fault n := (Classical.em (fault n = none)).symm.imp (⟨trivial, ·⟩) Eq.symm
  counts_eq fault n name := (Classical.em (fault n name = none)).symm.imp (⟨trivial, ·⟩) Eq.symm
  shows_eq x := by
    cases x with
    | faulty => exact .inl ⟨trivial, rfl⟩
    | _ => exact .inr rfl

end Mask
end LogThrottle
