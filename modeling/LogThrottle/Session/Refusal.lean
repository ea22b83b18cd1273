import LogThrottle.Counter
import LogThrottle.Sink
import LogThrottle.Text.Occurs

/-! Parts that fail on purpose: sinks that refuse lines and counters that refuse names. -/
namespace LogThrottle

/-- What a refusing sink raises. -/
inductive Refusal.Payload where
  | plain
  /-- Repeats the line. -/
  | quoting
  | wordless
  deriving DecidableEq

/-- A sink refuses every line that contains one of the texts. -/
structure Refusal where
  texts : List String
  payload : Refusal.Payload := .plain
  deriving DecidableEq

/-- The faults of a sink that refuses lines. Which call offers a line makes no difference. -/
def Refusal.fault (r : Refusal) : Nat → Line → Option Fault := fun _ line =>
  if Text.anyOccurs r.texts line.message then
    some (match r.payload with
      | .plain => .text "cannot write"
      | .quoting => .text ("cannot write: " ++ line.message)
      | .wordless => .wordless)
  else none

/-- The faults of a counter that refuses every name that contains one of the texts. -/
def Refusal.counterFault (texts : List String) : Nat → String → Option Fault := fun _ name =>
  if Text.anyOccurs texts name then some (.text ("counter down: " ++ name)) else none

end LogThrottle
