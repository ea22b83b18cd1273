import LogThrottle.System.State

/-! Reading a system: the lines that a sink took, and all parts after a change. Each change is seen in
one place, and all else can be read as before. -/
namespace LogThrottle

/-- The line of an entry, if a given sink took one. -/
def Entry.line? (k : SinkId) : Entry → Option Line
  | .line _ j l => if j = k then some l else none
  | .notice _ => none

namespace System

/-- The lines that a sink took so far. -/
def delivered (s : System) (k : SinkId) : List Line := s.journal.toList.filterMap (Entry.line? k)

theorem delivered_append {s s' : System} {es : List Entry}
    (journal : s'.journal.toList = s.journal.toList ++ es) (k : SinkId) :
    s'.delivered k = s.delivered k ++ es.filterMap (Entry.line? k) := by
  rw [delivered, journal, List.filterMap_append, delivered]

theorem getD_modify {α : Type} (xs : Array α) (f : α → α) (d : α) (i j : Nat) :
    (xs.modify i f).getD j d = if i = j ∧ j < xs.size then f (xs.getD j d) else xs.getD j d := by
  simp only [Array.getD_eq_getD_getElem?, Array.getElem?_modify]
  by_cases h : i = j
  · subst h
    by_cases hi : i < xs.size <;> simp [hi]
  · simp [h]

theorem getD_setIfInBounds {α : Type} (xs : Array α) (x d : α) (i j : Nat) :
    (xs.setIfInBounds i x).getD j d = if i = j ∧ j < xs.size then x else xs.getD j d := by
  simp only [Array.getD_eq_getD_getElem?, Array.getElem?_setIfInBounds]
  by_cases h : i = j
  · subst h
    by_cases hi : i < xs.size <;> simp [hi]
  · simp [h]

theorem setIfInBounds_getD {α : Type} (xs : Array α) (i : Nat) (f : α → α) (d : α) :
    xs.setIfInBounds i (f (xs.getD i d)) = xs.modify i f := by
  apply Array.ext_getElem?
  intro j
  rw [Array.getElem?_setIfInBounds, Array.getElem?_modify]
  by_cases own : i = j
  · subst own
    by_cases there : i < xs.size <;> simp [there]
  · simp [own]

theorem modify_of_same {α : Type} (xs : Array α) (i : Nat) {f : α → α} (same : ∀ x, f x = x) :
    xs.modify i f = xs := by
  apply Array.ext_getElem?
  intro j
  rw [Array.getElem?_modify]
  split
  · cases xs[j]? with
    | none => rfl
    | some x => exact congrArg some (same x)
  · rfl

theorem getD_push {α : Type} (xs : Array α) (x d : α) (j : Nat) :
    (xs.push x).getD j d = if j = xs.size then x else xs.getD j d := by
  simp only [Array.getD_eq_getD_getElem?, Array.getElem?_push]
  split <;> rfl

theorem getD_of_size_le {α : Type} {xs : Array α} {j : Nat} (h : xs.size ≤ j) (d : α) : xs.getD j d = d := by
  rw [Array.getD_eq_getD_getElem?, Array.getElem?_eq_none h, Option.getD_none]

theorem throttle_of_size_le {s : System} {t : ThrottleId} (h : s.throttles.size ≤ t) :
    s.throttle t = default := getD_of_size_le h _

theorem logger_of_size_le {s : System} {l : LoggerId} (h : s.loggers.size ≤ l) :
    s.logger l = default := getD_of_size_le h _

variable (s : System)

theorem throttle_setLimiter (t i : ThrottleId) (x : Limiter) :
    (setLimiter t x s).throttle i =
      if t = i ∧ i < s.throttles.size then { s.throttle i with limiter := x } else s.throttle i :=
  getD_modify ..

theorem throttle_setStamp (t i : ThrottleId) (e : UInt64) :
    (setStamp t e s).throttle i =
      if t = i ∧ i < s.throttles.size then { s.throttle i with stamp := e } else s.throttle i :=
  getD_modify ..

theorem roster_changeRoster (r i : RosterId) (f : Roster → Roster) :
    (changeRoster r f s).roster i =
      if r = i ∧ i < s.rosters.size then f (s.roster i) else s.roster i :=
  getD_modify ..

theorem logger_changeTally (l i : LoggerId) (f : Tally → Tally) :
    (changeTally l f s).logger i =
      if l = i ∧ i < s.loggers.size then { s.logger i with tally := f (s.logger i).tally }
      else s.logger i :=
  getD_modify ..

theorem logger_setCatalogue (l i : LoggerId) (c : Catalogue) :
    (setCatalogue l c s).logger i =
      if l = i ∧ i < s.loggers.size then { s.logger i with catalogue := c } else s.logger i :=
  getD_modify ..

@[simp] theorem size_throttles_setLimiter (t : ThrottleId) (x : Limiter) :
    (setLimiter t x s).throttles.size = s.throttles.size := Array.size_modify

@[simp] theorem size_throttles_setStamp (t : ThrottleId) (e : UInt64) :
    (setStamp t e s).throttles.size = s.throttles.size := Array.size_modify

@[simp] theorem size_rosters_changeRoster (r : RosterId) (f : Roster → Roster) :
    (changeRoster r f s).rosters.size = s.rosters.size := Array.size_modify

@[simp] theorem size_loggers_changeTally (l : LoggerId) (f : Tally → Tally) :
    (changeTally l f s).loggers.size = s.loggers.size := Array.size_modify

@[simp] theorem size_loggers_setCatalogue (l : LoggerId) (c : Catalogue) :
    (setCatalogue l c s).loggers.size = s.loggers.size := Array.size_modify

end System
end LogThrottle
