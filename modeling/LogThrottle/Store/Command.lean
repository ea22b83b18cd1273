import LogThrottle.Store

/-! Sequences of commands on one store, each answered before the next. -/
namespace LogThrottle.Store

inductive Command (κ α : Type) where
  | insert (k : κ) (v : α)
  | get (k : κ)
  | clear
  | values
  | drain

inductive Answer (α : Type) where
  | stored (kept : α) (fresh : Bool)
  | found (v : Option α)
  | done
  | listed (vs : List α)
  deriving DecidableEq

variable {κ α : Type} [DecidableEq κ]

/-- Draining lists what clearing would forget. -/
def answer (s : Store κ α) : Command κ α → Answer α × Store κ α
  | .insert k v => let (s, kept, fresh) := s.insert k v; (.stored kept fresh, s)
  | .get k => (.found (s.find? k), s)
  | .clear => (.done, empty)
  | .values => (.listed s.values, s)
  | .drain => (.listed s.values, empty)

/-- Every answer with the store right after it. -/
def answers (s : Store κ α) : List (Command κ α) → List (Answer α × Store κ α)
  | [] => []
  | c :: cs => s.answer c :: answers (s.answer c).2 cs

end LogThrottle.Store
