import LogThrottle.Ids
import LogThrottle.Store
import LogThrottle.Topic

/-! The catalogue of a logger: its throttles by topic, on one shelf for topics of every severity and
one for each severity. A shelf knows its throttles by template alone, so each topic has its shelf.
-/
namespace LogThrottle

abbrev Shelf := Store String ThrottleId

structure Catalogue where
  shelves : Vector Shelf 6 := Vector.replicate 6 .empty

namespace Catalogue

instance : Inhabited Catalogue := ⟨{}⟩

def position : Option Severity → Fin 6
  | none => 0
  | some s => s.rank.succ

theorem position_inj {a b : Option Severity} (h : position a = position b) : a = b := by
  cases a <;> cases b
  · rfl
  · exact absurd h.symm (Fin.succ_ne_zero _)
  · exact absurd h (Fin.succ_ne_zero _)
  · exact congrArg some (Severity.rank_inj (Fin.succ_inj.mp h))

def shelf (c : Catalogue) (s : Option Severity) : Shelf := c.shelves[position s]

def find? (c : Catalogue) (topic : Topic) : Option ThrottleId :=
  (c.shelf topic.severity).find? topic.template

/-- Keeps a throttle that is there already. Gives the one kept and whether it is the new one. -/
def insert (c : Catalogue) (topic : Topic) (t : ThrottleId) : Catalogue × ThrottleId × Bool :=
  let (shelf, kept, fresh) := (c.shelf topic.severity).insert topic.template t
  ({ c with shelves := c.shelves.set (position topic.severity) shelf }, kept, fresh)

def size (c : Catalogue) : Nat := c.shelves.toList.foldr (fun s n => s.size + n) 0

def cleared : Catalogue := {}

@[simp] theorem shelf_cleared (s : Option Severity) : cleared.shelf s = .empty := by
  simp [shelf, cleared]

@[simp] theorem find?_cleared (topic : Topic) : cleared.find? topic = none := by
  simp [find?]

theorem insert_of_none {c : Catalogue} {topic : Topic} (t : ThrottleId)
    (absent : c.find? topic = none) : (c.insert topic t).2 = (t, true) :=
  (Store.insert_of_none t absent).2

theorem shelf_insert (c : Catalogue) (topic : Topic) (t : ThrottleId) (s : Option Severity) :
    (c.insert topic t).1.shelf s =
      if s = topic.severity then ((c.shelf s).insert topic.template t).1 else c.shelf s := by
  simp only [insert, shelf, Fin.getElem_fin, Vector.getElem_set]
  by_cases h : s = topic.severity
  · simp [h]
  · have : (position topic.severity).val ≠ (position s).val := fun e =>
      h (position_inj (Fin.ext e)).symm
    simp [h, this]

theorem find?_insert (c : Catalogue) (topic : Topic) (t : ThrottleId) (other : Topic) :
    (c.insert topic t).1.find? other =
      if other = topic then some ((c.find? topic).getD t) else c.find? other := by
  obtain ⟨a, x⟩ := topic
  obtain ⟨b, y⟩ := other
  simp only [find?, shelf_insert, Topic.mk.injEq]
  by_cases hs : y = x
  · subst hs
    simp [Store.find?_insert]
  · simp [hs]

private theorem size_set (shelves : List Shelf) {i : Nat} (h : i < shelves.length) (shelf : Shelf) :
    (shelves.set i shelf).foldr (fun s n => s.size + n) 0 + shelves[i].size =
      shelves.foldr (fun s n => s.size + n) 0 + shelf.size := by
  induction shelves generalizing i with
  | nil => exact absurd h (Nat.not_lt_zero i)
  | cons first rest ih =>
    cases i with
    | zero =>
      simp only [List.set_cons_zero, List.foldr_cons, List.getElem_cons_zero]
      omega
    | succ i =>
      have moved := ih (Nat.lt_of_succ_lt_succ h)
      simp only [List.set_cons_succ, List.foldr_cons, List.getElem_cons_succ]
      omega

theorem size_insert_of_none {c : Catalogue} {topic : Topic} (t : ThrottleId)
    (absent : c.find? topic = none) : (c.insert topic t).1.size = c.size + 1 := by
  have inside : (position topic.severity).val < c.shelves.toList.length := by simp
  have moved := size_set c.shelves.toList inside ((c.shelf topic.severity).insert topic.template t).1
  have grown : ((c.shelf topic.severity).insert topic.template t).1.size =
      (c.shelf topic.severity).size + 1 :=
    congrArg List.length (Store.insert_of_none t absent).1
  have old : c.shelves.toList[(position topic.severity).val] = c.shelf topic.severity := by
    simp [shelf]
  rw [grown, old] at moved
  simp only [insert, size, Vector.toList_set]
  omega

end Catalogue
end LogThrottle
