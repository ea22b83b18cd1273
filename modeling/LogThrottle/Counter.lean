import LogThrottle.Fault
import LogThrottle.Store

/-! External counters: one count for each name. An increment that raises a fault is not counted.
-/
namespace LogThrottle

structure Counter where
  /-- A name enters with its first increment. -/
  counts : Store String Nat := .empty
  /-- Increments asked for so far, counted or not. -/
  calls : Nat := 0
  /-- The fault raised when the call of a given number increments a given name, if any. -/
  fault : Nat → String → Option Fault := fun _ _ => none

namespace Counter

instance : Inhabited Counter := ⟨{}⟩

def count (c : Counter) (name : String) : Nat := (c.counts.find? name).getD 0

/-- One higher at a name. -/
def raised (c : Counter) (name : String) : Counter :=
  { c with counts := (c.counts.insert name 0).1.map fun k n => if k = name then n + 1 else n }

def increment (c : Counter) (name : String) : Except Fault Unit × Counter :=
  match c.fault c.calls name with
  | some f => (.error f, { c with calls := c.calls + 1 })
  | none => (.ok (), { c.raised name with calls := c.calls + 1 })

theorem count_raised (c : Counter) (name other : String) :
    (c.raised name).count other = c.count other + if name = other then 1 else 0 := by
  simp only [count, raised, Store.find?_map, Store.find?_insert]
  by_cases own : other = name
  · simp [own]
  · have apart : name ≠ other := fun same => own same.symm
    rw [if_neg own, if_neg apart]
    cases c.counts.find? other with
    | none => rfl
    | some n => exact if_neg own

end Counter
end LogThrottle
