import LogThrottle.Severity
import LogThrottle.Template.Fill

/-! Sinks: where lines go. A sink that raises a fault on a line has not taken it. -/
namespace LogThrottle

structure Line where
  severity : Severity
  message : String
  deriving DecidableEq, Inhabited

/-- How a sink takes a template with its arguments, and where its lines can be seen. -/
inductive Sink.Style where
  /-- Filled in, and recorded. -/
  | filled
  /-- The template as it is with a list of all arguments, and recorded. -/
  | itemised
  /-- Filled in, and passed on as a diagnostic event. -/
  | traced
  deriving DecidableEq, Inhabited

/-- The message that a sink makes of a template and its arguments. -/
def Sink.Style.render : Sink.Style → String → List Argument → Except Fault String
  | .itemised, template, args => Template.itemise template args
  | .filled, template, args | .traced, template, args =>
    Template.Filled.text <$> Template.fill template args

structure Sink where
  style : Sink.Style := .filled
  /-- Lines offered so far, taken or not. -/
  calls : Nat := 0
  /-- The fault raised when the call of a given number offers a given line, if any. -/
  fault : Nat → Line → Option Fault := fun _ _ => none

namespace Sink

instance : Inhabited Sink := ⟨{}⟩

def offer (s : Sink) (line : Line) : Except Fault Unit × Sink :=
  (match s.fault s.calls line with
    | some f => .error f
    | none => .ok (),
   { s with calls := s.calls + 1 })

end Sink
end LogThrottle
