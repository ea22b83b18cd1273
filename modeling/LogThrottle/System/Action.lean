import LogThrottle.System.Holding
import LogThrottle.System.Logging

/-! Actions: all that callers can do to a logging system, each with the kind of answer it gives.
Whatever happens to a system is a list of actions. -/
namespace LogThrottle

inductive Action where
  | addSink (style : Sink.Style) (fault : Nat → Line → Option Fault)
  | addStopwatch (reading : Duration) (fault : Nat → Option Fault)
  | addCounter (fault : Nat → String → Option Fault)
  | openRoster
  | build (p : Plan)
  | move (w : StopwatchId) (m : Stopwatch.Move)
  | lookup (l : LoggerId) (topic : Topic)
  | log (l : LoggerId) (severity : Severity) (template : String) (args : List Argument)
  | logThrough (t : ThrottleId) (severity : Severity) (args : List Argument)
  | emit (t : ThrottleId) (args : List Argument)
  | attempt (t : ThrottleId)
  | enrol (r : RosterId) (t : ThrottleId)
  | flush (r : RosterId)
  | shutdown (r : RosterId)
  | fire (r : RosterId) (period : Duration)
  | guard (r : RosterId)
  | share (l : LoggerId)
  | release (h : Holder)
  | resetTally (l : LoggerId)

namespace Action

@[reducible] def Answer : Action → Type
  | addSink .. => SinkId
  | addStopwatch .. => StopwatchId
  | addCounter _ => CounterId
  | openRoster => RosterId
  | build _ => Except PlanError LoggerId
  | lookup .. => ThrottleId
  | attempt _ => Decision
  | _ => Unit

def perform : (a : Action) → Call a.Answer
  | addSink style fault => System.addSink { style, fault }
  | addStopwatch reading fault => System.addStopwatch { reading, fault }
  | addCounter fault => System.addCounter { fault }
  | openRoster => System.openRoster
  | build p => System.build p
  | move w m => System.moveClock w m
  | lookup l topic => System.lookup l topic
  | log l severity template args => System.log l severity template args
  | logThrough t severity args => System.logThrough t severity args
  | emit t args => System.emit t args
  | attempt t => System.attempt t
  | enrol r t => System.enrol r t
  | flush r => System.flush r
  | shutdown r => System.shutdown r
  | fire r period => System.fire r period
  | guard r => System.hold ⟨.guard, r⟩
  | share l => System.share l
  | release h => System.release h
  | resetTally l => modify (System.changeTally l fun _ => {})

end Action

namespace System

/-- The system after an action, whether or not the action ended in a fault. -/
def after (s : System) (a : Action) : System := (a.perform.exec s).2

/-- The system after a list of actions; a fault ends its own action only. -/
def run (s : System) (as : List Action) : System := as.foldl after s

end System
end LogThrottle
