/-! Faults: what a sink, stopwatch, counter or argument raises instead of returning. A fault carries
a text or a value that is none. -/
namespace LogThrottle

inductive Fault where
  | text (s : String)
  | wordless
  deriving DecidableEq, Inhabited

/-- As reported to a caller whom the fault reaches. -/
def Fault.message : Fault → String
  | text s => s
  | wordless => "non-text panic"

/-- As reported in a failed reset. -/
def Fault.reason : Fault → String
  | text s => s
  | wordless => "unknown panic"

end LogThrottle
