import LogThrottle.System.Enrolment

/-! Looking up the throttle of a topic. A catalogue with more entries than its logger's capacity is
emptied before a new topic enters; old throttles stay usable by those who hold them. -/
namespace LogThrottle.System

def overflowWarning : String :=
  "out of capacity in rate-limited log pattern cache; "
    ++ "accidentally using interpolated strings as patterns?"

/-- Warns first: if the sink fails on the warning, nothing has changed. -/
def overflow (l : LoggerId) : Call Unit := do
  let logger := (← get).logger l
  modify (write (.notice .overflowed))
  deliver (.overflow l) logger.sink ⟨.warn, overflowWarning⟩
  flush logger.roster
  modify (setCatalogue l .cleared)
  modify (changeTally l Tally.countOverflow)

/-- A fresh throttle enters the catalogue before it is enrolled. -/
def introduce (l : LoggerId) (topic : Topic) : Call ThrottleId := do
  let logger := (← get).logger l
  let candidate := (← get).throttles.size
  let (catalogue, kept, fresh) := logger.catalogue.insert topic candidate
  modify fun s => { s with throttles := s.throttles.push { topic, logger := l } }
  modify (setCatalogue l catalogue)
  if fresh then enrol logger.roster kept
  return kept

def lookup (l : LoggerId) (topic : Topic) : Call ThrottleId := do
  let logger := (← get).logger l
  match logger.catalogue.find? topic with
  | some t => return t
  | none =>
    if logger.capacity < logger.catalogue.size then overflow l
    introduce l topic

end LogThrottle.System
