import LogThrottle.System.Limiting

/-! Listings of what was delivered. A reset pass has no order of its own, so the lines of resets
that stand together are listed in rising order. -/
namespace LogThrottle

/-- Whether a message was written by a reset, or looks as if it was. -/
def fromReset (message : String) : Bool :=
  Digest.opening.toList.isPrefixOf message.toList
    || System.failureOpening.toList.isPrefixOf message.toList

/-- The order of lists of texts by their first difference, a shorter list before its extensions. -/
def fieldsLe : List String → List String → Bool
  | [], _ => true
  | _ :: _, [] => false
  | a :: as, b :: bs => a < b || (a = b && fieldsLe as bs)

/-- Sorts each longest run of items whose message comes from a reset, comparing the items' fields.
-/
def settle {α : Type} (message : α → String) (fields : α → List String) (items : List α) : List α :=
  (items.splitBy fun a b => fromReset (message a) && fromReset (message b)).flatMap fun run =>
    run.mergeSort fun a b => fieldsLe (fields a) (fields b)

def Line.fields (line : Line) : List String := [line.severity.name, line.message]

def Line.settled (lines : List Line) : List Line := settle Line.message Line.fields lines

/-- Messages that begin as digests do, in order of delivery. -/
def Line.digests (lines : List Line) : List String :=
  (lines.map Line.message).filter fun m => Digest.opening.toList.isPrefixOf m.toList

/-- A line under the name of the sink that took it. -/
structure Delivery where
  sink : String
  line : Line
  deriving DecidableEq

def Delivery.settled (ds : List Delivery) : List Delivery :=
  settle (·.line.message) (fun d => d.sink :: d.line.fields) ds

/-- A diagnostic event, from a tracing sink or from the system itself. -/
structure Event where
  severity : Severity
  target : String
  message : String
  deriving DecidableEq

namespace Event

/-- The target of lines that reach the diagnostics through a sink. -/
def lineTarget : String := "rate_limited_log"

def ofLine (line : Line) : Event := ⟨line.severity, lineTarget, line.message⟩

def ofNotice (n : Notice) : Event := ⟨n.severity, n.target, n.message⟩

def fields (e : Event) : List String := [e.severity.shout, e.target, e.message]

def settled (es : List Event) : List Event := settle message fields es

end Event

namespace System

/-- Diagnostic events since a position in the journal. -/
def events (s : System) (start : Nat) : List Event :=
  (s.journal.toList.drop start).filterMap fun
    | .line _ k line => if (s.sink k).style = .traced then some (.ofLine line) else none
    | .notice n => some (.ofNotice n)

end System
end LogThrottle
