import LogThrottle.Proofs.Teardown.Resets

/-! Passes in different orders. Where failures do not hang on how often a sink or a stopwatch was called before,
the resets of a pass can be done in any order: what is left is the same, but for the order of the journal. -/
namespace LogThrottle.System
open Call
variable {s s' s'' : System} {t u : ThrottleId}

/-- The same system, with the entries of its journal in another order. -/
structure Reordered (s s' : System) : Prop where
  same : s' = { s with journal := s'.journal }
  journal : s'.journal.toList.Perm s.journal.toList

namespace Reordered

theorem refl (s : System) : Reordered s s := ⟨rfl, .refl _⟩

theorem symm (h : Reordered s s') : Reordered s' s := by
  obtain ⟨same, journal⟩ := h
  refine ⟨?_, journal.symm⟩
  rw [same]

theorem trans (h : Reordered s s') (h' : Reordered s' s'') : Reordered s s'' := by
  obtain ⟨same, journal⟩ := h
  obtain ⟨same', journal'⟩ := h'
  refine ⟨?_, journal'.trans journal⟩
  rw [same', same]

/-- Resets do not look at the journal. -/
theorem afterReset (h : Reordered s s') (t : ThrottleId) : Reordered (s.afterReset t) (s'.afterReset t) := by
  obtain ⟨same, journal⟩ := h
  generalize s'.journal = j at same journal
  subst same
  refine ⟨rfl, ?_⟩
  rw [(told_afterReset s t).journal, (told_afterReset { s with journal := j } t).journal]
  exact journal.append_right _

end Reordered

private theorem modify_modify_comm {α : Type} (xs : Array α) (i j : Nat) {f g : α → α}
    (commute : i = j → ∀ x, f (g x) = g (f x)) : (xs.modify i f).modify j g = (xs.modify j g).modify i f := by
  apply Array.ext_getElem?
  intro n
  simp only [Array.getElem?_modify]
  by_cases first : i = n
  · by_cases second : j = n
    · cases xs[n]? with
      | none => simp [first, second]
      | some x => simp [first, second, commute (first.trans second.symm)]
    · simp [first, second]
  · by_cases second : j = n <;> simp [first, second]

section Swap

/-- A reset finds the other throttles as it would have before another one's reset. -/
private theorem afterReset_afterReset (different : t ≠ u) : (s.afterReset t).afterReset u =
    written (s.resetEntries u) (credited (s.throttle u).logger (s.effort u).digests
      (clocked (s.logger (s.throttle u).logger).stopwatch (s.effort u).reads
        (asked (s.logger (s.throttle u).logger).sink (s.effort u).offers
          (setLimiter u .cleared (s.afterReset t))))) := by
  have told := told_afterReset s t
  have limiter : ((s.afterReset t).throttle u).limiter = (s.throttle u).limiter := by
    have read : (s.afterReset t).throttle u = (setLimiter t .cleared s).throttle u := rfl
    rw [read, throttle_setLimiter, if_neg fun own => different own.1]
  rw [afterReset, told.resetEntries_eq limiter, told.effort_eq limiter, told.stopwatch_eq, told.sink_eq,
    told.logger_eq]

private theorem journal_afterReset_afterReset (different : t ≠ u) :
    ((s.afterReset t).afterReset u).journal.toList = s.journal.toList ++ (s.resetEntries t ++ s.resetEntries u) := by
  rw [afterReset_afterReset different, ← List.append_assoc, ← (told_afterReset s t).journal]
  exact Array.toList_append

/-- Two resets can be done in either order. -/
theorem reordered_swap (s : System) (t u : ThrottleId) :
    Reordered ((s.afterReset t).afterReset u) ((s.afterReset u).afterReset t) := by
  by_cases different : t = u
  · subst different
    exact .refl _
  · constructor
    · have sinks := modify_modify_comm s.sinks (s.logger (s.throttle t).logger).sink
        (s.logger (s.throttle u).logger).sink
        (f := fun x => { x with calls := x.calls + (s.effort t).offers })
        (g := fun x => { x with calls := x.calls + (s.effort u).offers }) fun _ _ => by simp [Nat.add_right_comm]
      have stopwatches := modify_modify_comm s.stopwatches (s.logger (s.throttle t).logger).stopwatch
        (s.logger (s.throttle u).logger).stopwatch
        (f := fun x => { x with reads := x.reads + (s.effort t).reads })
        (g := fun x => { x with reads := x.reads + (s.effort u).reads }) fun _ _ => by simp [Nat.add_right_comm]
      have loggers := modify_modify_comm s.loggers (s.throttle t).logger (s.throttle u).logger
        (f := fun x => { x with tally := { x.tally with digests := x.tally.digests + (s.effort t).digests } })
        (g := fun x => { x with tally := { x.tally with digests := x.tally.digests + (s.effort u).digests } })
        fun _ _ => by simp; ac_rfl
      have throttles := modify_modify_comm s.throttles t u (f := fun x => { x with limiter := .cleared })
        (g := fun x => { x with limiter := .cleared }) fun own => absurd own different
      rw [afterReset_afterReset different, afterReset_afterReset (Ne.symm different)]
      simp only [written, credited, changeTally, clocked, asked, setLimiter, afterReset, sinks, stopwatches,
        loggers, throttles]
    · rw [journal_afterReset_afterReset different, journal_afterReset_afterReset (Ne.symm different)]
      exact .append_left _ List.perm_append_comm

end Swap

section Passes
variable {ts us : List ThrottleId}

theorem Reordered.foldl (h : Reordered s s') (ts : List ThrottleId) :
    Reordered (ts.foldl System.afterReset s) (ts.foldl System.afterReset s') := by
  induction ts generalizing s s' with
  | nil => exact h
  | cons t ts ih => exact ih (h.afterReset t)

/-- A pass leaves the same in any order. -/
theorem reordered_of_perm (perm : ts.Perm us) (s : System) :
    Reordered (ts.foldl afterReset s) (us.foldl afterReset s) := by
  induction perm generalizing s with
  | nil => exact .refl s
  | cons t _ ih => exact ih (s.afterReset t)
  | swap t u ts => exact (reordered_swap s u t).foldl ts
  | trans _ _ ih ih' => exact (ih s).trans (ih' s)

theorem Steadfast.foldl (h : Steadfast s) (ts : List ThrottleId) : Steadfast (ts.foldl System.afterReset s) := by
  induction ts generalizing s with
  | nil => exact h
  | cons t ts ih => exact ih (h.afterReset t)

theorem exec_resetAll (h : Steadfast s) (ts : List ThrottleId) :
    (resetAll ts).exec s = (.ok (), ts.foldl afterReset s) := by
  induction ts generalizing s with
  | nil => rfl
  | cons t ts ih =>
    rw [resetAll, exec_bind, exec_resetOrReport h]
    exact ih (h.afterReset t)

/-- Resets do not look at rosters. -/
theorem reordered_drained (r : RosterId) (ts : List ThrottleId) (s : System) :
    Reordered (ts.foldl afterReset (drained r s)) (drained r (ts.foldl afterReset s)) := by
  induction ts generalizing s with
  | nil => exact .refl _
  | cons t ts ih =>
    have first : Reordered ((drained r s).afterReset t) (drained r (s.afterReset t)) := by
      refine ⟨rfl, ?_⟩
      have pushed (s : System) : (drained r s).journal.toList = s.journal.toList ++ [.notice .flushing] :=
        Array.toList_push
      have entries : (drained r s).resetEntries t = s.resetEntries t := rfl
      rw [(told_afterReset (drained r s) t).journal, pushed, pushed, (told_afterReset s t).journal, entries,
        List.append_assoc, List.append_assoc]
      exact .append_left _ List.perm_append_comm
    exact (first.foldl ts).trans (ih (s.afterReset t))

end Passes

end LogThrottle.System
