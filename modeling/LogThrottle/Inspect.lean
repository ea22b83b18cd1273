import LogThrottle.Roster
import LogThrottle.Text.Quoted
import LogThrottle.Throttle

/-! Values shown with all their fields, for people who look at a running system. -/
namespace LogThrottle

/-- A name and its fields, in braces. -/
def inspectRecord (name : String) (fields : List (String × String)) : String :=
  name ++ " \x7b " ++ ", ".intercalate (fields.map fun f => f.1 ++ ": " ++ f.2) ++ " \x7d"

def inspectBool (b : Bool) : String := if b then "true" else "false"

def Quota.inspect (q : Quota) : String :=
  inspectRecord "RateAndPeriod" [("max_rate", toString q.limit), ("period", q.period.text)]

def Topic.inspect (t : Topic) : String :=
  inspectRecord "PatternKey" [("template", Text.quoted t.template),
    ("level", match t.severity with
      | some s => "Some(" ++ s.title ++ ")"
      | none => "None")]

def Throttle.inspect (t : Throttle) (q : Quota) : String :=
  inspectRecord "RateLimitedPattern" [("key", t.topic.inspect), ("rate", q.inspect),
    ("count", toString t.limiter.count), ("limited", inspectBool t.limiter.isLimited)]

def Roster.inspect (r : Roster) : String :=
  inspectRecord "Registry" [("periods", toString r.slots.size), ("epoch", toString r.epoch),
    ("closed", inspectBool r.closed)]

end LogThrottle
