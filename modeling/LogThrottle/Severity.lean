/-! Severities of log lines in rising order, with the words that outputs use for them. -/
namespace LogThrottle

inductive Severity where
  | trace | debug | info | warn | error
  deriving DecidableEq, Inhabited

namespace Severity

/-- All severities, mildest first. -/
def all : List Severity := [trace, debug, info, warn, error]

/-- Position among `all`. -/
def rank : Severity → Fin 5
  | trace => 0 | debug => 1 | info => 2 | warn => 3 | error => 4

theorem rank_inj {a b : Severity} : a.rank = b.rank → a = b := by
  cases a <;> cases b <;> decide

instance : Ord Severity := ⟨fun a b => compare a.rank b.rank⟩

/-- The graver of two severities. -/
def graver (a b : Severity) : Severity := if a.rank < b.rank then b else a

def name : Severity → String
  | trace => "trace" | debug => "debug" | info => "info" | warn => "warn" | error => "error"

/-- Capitalised, as inspected values show it. -/
def title : Severity → String
  | trace => "Trace" | debug => "Debug" | info => "Info" | warn => "Warn" | error => "Error"

/-- Upper case, as diagnostic events show it. -/
def shout : Severity → String
  | trace => "TRACE" | debug => "DEBUG" | info => "INFO" | warn => "WARN" | error => "ERROR"

/-- Name of the external counter of calls made at this severity. -/
def counterName (s : Severity) : String := s.name ++ "_rate_limited_log_count"

/-- Calls at different severities are counted apart. -/
theorem counterName_injective {a b : Severity} : a.counterName = b.counterName → a = b := by
  cases a <;> cases b <;> decide

def ofName? (s : String) : Option Severity := all.find? (·.name = s)

end Severity
end LogThrottle
