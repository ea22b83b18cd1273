import LogThrottle.Severity

/-! Topics: what is throttled together. A topic is the template of a line, either at every severity
or bound to one of them. -/
namespace LogThrottle

structure Topic where
  template : String
  severity : Option Severity := none
  deriving DecidableEq, Inhabited

namespace Topic

/-- The severity of lines that name none: the bound one, else `info`. -/
def voice (t : Topic) : Severity := t.severity.getD .info

def text (t : Topic) : String :=
  match t.severity with
  | some s => "[" ++ s.name ++ "] " ++ t.template
  | none => t.template

end Topic
end LogThrottle
