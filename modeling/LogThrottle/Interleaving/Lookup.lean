import LogThrottle.Catalogue
import LogThrottle.Interleaving.Attempt
import LogThrottle.Roster

/-! Lookups on one logger by any number of callers, and flushes of its roster. A lookup searches the
catalogue, compares its size with the capacity, inserts a fresh candidate unless the topic came in
meanwhile, and enrols the candidate only if it was inserted. -/
namespace LogThrottle.Interleaving.Lookup

inductive Phase where
  | idle
  /-- The topic was not found; the size is compared next. -/
  | missing (topic : Topic)
  /-- There is room; a candidate is inserted next. -/
  | inserting (topic : Topic)
  /-- The candidate was inserted; it is enrolled next. -/
  | enrolling (topic : Topic) (t : ThrottleId)
  deriving DecidableEq

structure Config where
  catalogue : Catalogue := {}
  roster : Roster := {}
  /-- Candidates made so far; the next one gets this number. -/
  made : Nat := 0
  overflows : Nat := 0
  phase : Caller → Phase := fun _ => .idle
  /-- Topics asked for so far. -/
  asked : List Topic := []
  /-- Lookups that returned, the latest first. -/
  returned : List (Topic × ThrottleId) := []
  /-- Candidates that were made and not kept. -/
  lost : List ThrottleId := []

namespace Config

def enter (x : Config) (c : Caller) (p : Phase) : Config :=
  { x with phase := fun d => if d = c then p else x.phase d }

def Quiet (x : Config) : Prop := ∀ c, x.phase c = .idle

end Config

/-- One step of a lookup; all throttles of the logger have one period. -/
inductive Step (capacity : Nat) (period : Duration) : Config → Config → Prop where
  | hit {x : Config} (c : Caller) (topic : Topic) {t : ThrottleId} : x.phase c = .idle →
      x.catalogue.find? topic = some t →
      Step capacity period x { x with
        asked := topic :: x.asked
        returned := (topic, t) :: x.returned }
  | miss {x : Config} (c : Caller) (topic : Topic) : x.phase c = .idle →
      x.catalogue.find? topic = none →
      Step capacity period x { x.enter c (.missing topic) with asked := topic :: x.asked }
  | room {x : Config} (c : Caller) {topic : Topic} : x.phase c = .missing topic →
      x.catalogue.size ≤ capacity → Step capacity period x (x.enter c (.inserting topic))
  | overflow {x : Config} (c : Caller) {topic : Topic} : x.phase c = .missing topic →
      capacity < x.catalogue.size →
      Step capacity period x { x.enter c (.inserting topic) with
        catalogue := .cleared
        roster := x.roster.drain
        overflows := x.overflows + 1 }
  | insert {x : Config} (c : Caller) {topic : Topic} : x.phase c = .inserting topic →
      (x.catalogue.insert topic x.made).2.2 = true →
      Step capacity period x { x.enter c (.enrolling topic x.made) with
        catalogue := (x.catalogue.insert topic x.made).1
        made := x.made + 1 }
  | lose {x : Config} (c : Caller) {topic : Topic} : x.phase c = .inserting topic →
      (x.catalogue.insert topic x.made).2.2 = false →
      Step capacity period x { x.enter c .idle with
        made := x.made + 1
        lost := x.made :: x.lost
        returned := (topic, (x.catalogue.insert topic x.made).2.1) :: x.returned }
  | enrol {x : Config} (c : Caller) {topic : Topic} {t : ThrottleId} :
      x.phase c = .enrolling topic t →
      Step capacity period x { x.enter c .idle with
        roster := x.roster.enrol period t
        returned := (topic, t) :: x.returned }

/-- A flush leaves lookups alone and empties the roster. -/
inductive FlushStep : Config → Config → Prop where
  | drain {x : Config} : FlushStep x { x with roster := x.roster.drain }

/-- A step of a lookup, or a flush. -/
def Move (capacity : Nat) (period : Duration) (x y : Config) : Prop := Step capacity period x y ∨ FlushStep x y

end LogThrottle.Interleaving.Lookup
