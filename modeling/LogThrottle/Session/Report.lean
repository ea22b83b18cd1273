import LogThrottle.Session.Step

/-! Reports on sessions: each step's reply, what was delivered meanwhile, and how the parts that are
held by name stand afterwards. -/
namespace LogThrottle

structure LoggerStanding where
  topics : Nat
  tally : Tally
  deriving DecidableEq

structure RosterStanding where
  periods : Nat
  epoch : UInt64
  closed : Bool
  deriving DecidableEq

structure HandleStanding where
  count : UInt64
  limited : Bool
  deriving DecidableEq

structure StepReport where
  reply : Reply
  lines : List Delivery
  events : List Event
  loggers : List (String × LoggerStanding)
  rosters : List (String × RosterStanding)
  handles : List (String × HandleStanding)

namespace Session

private def standings {α β : Type} (names : Names α) (f : α → β) : List (String × β) :=
  names.entries.map fun e => (e.1, f e.2)

/-- The report on a step that began when the journal had a given size. -/
def report (s : Session) (reply : Reply) (start : Nat) : StepReport where
  reply
  lines := s.deliveries start
  events := Event.settled (s.system.events start)
  loggers := standings s.loggers fun l =>
    let logger := s.system.logger l
    ⟨logger.catalogue.size, logger.tally⟩
  rosters := standings s.rosters fun r =>
    let roster := s.system.roster r
    ⟨roster.slots.size, roster.epoch, roster.closed⟩
  handles := standings s.handles fun t =>
    let limiter := (s.system.throttle t).limiter
    ⟨limiter.count, limiter.isLimited⟩

/-- The reports on a list of requests, and the session after them. A request that is none is
answered as unusable. -/
def reports (s : Session) : List (Option Step) → List StepReport × Session
  | [] => ([], s)
  | x :: xs =>
    let start := s.system.journal.size
    let (reply, s) := match x with
      | some x => s.step x
      | none => (.unusable, s)
    let first := s.report reply start
    let (rest, s) := reports s xs
    (first :: rest, s)

/-- The lines delivered when everything still held is let go. -/
def farewell (s : Session) : List Delivery :=
  s.finish.deliveries s.system.journal.size

end Session
end LogThrottle
