import LogThrottle.Fault

/-! Arguments of a template, seen through what they write when they are shown. -/
namespace LogThrottle

inductive Argument where
  | text (s : String)
  | integer (n : Int)
  | flag (b : Bool)
  /-- Writes `s` and then reports that formatting failed; the report is ignored. -/
  | cutShort (s : String)
  | faulty (f : Fault)
  deriving DecidableEq, Inhabited

/-- The text an argument writes, or the fault it raises instead. -/
def Argument.written : Argument → Except Fault String
  | text s => .ok s
  | integer n => .ok (toString n)
  | flag b => .ok (if b then "true" else "false")
  | cutShort s => .ok s
  | faulty f => .error f

end LogThrottle
