import LogThrottle.Drill.Rig

/-! Capturing what a tracing sink passes on. -/
namespace LogThrottle

inductive Capture.Command where
  | line (line : Line)
  | template (severity : Severity) (template : String) (args : List Argument)
  | forget

structure Capture.Standing where
  captured : Nat
  forLines : Nat
  last : Option Event

namespace Capture

def obey (k : SinkId) : Command → Call Unit
  | .line line => System.deliver .caller k line
  | .template severity template args => System.deliverTemplate .caller k severity template args
  | .forget => return

def standing (events : List Event) : Standing where
  captured := events.length
  forLines := (events.filter (·.target = Event.lineTarget)).length
  last := events.getLast?

/-- The standing after each command. The first fault ends the capture. -/
def standings (k : SinkId) (start : Nat) : List Command → Call (List Standing)
  | [] => return []
  | c :: cs => do
    obey k c
    let s ← get
    let start := match c with
      | .forget => s.journal.size
      | _ => start
    return standing (s.events start) :: (← standings k start cs)

def run (cs : List Command) : Call (List Standing) := do
  standings (← (Action.addSink .traced fun _ _ => none).perform) 0 cs

end Capture
end LogThrottle
