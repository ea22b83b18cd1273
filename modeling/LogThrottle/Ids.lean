/-! Numbers by which the parts of a logging system refer to each other. Parts are numbered in the
order in which they were made, each kind on its own. -/
namespace LogThrottle

abbrev SinkId := Nat
abbrev StopwatchId := Nat
abbrev CounterId := Nat
abbrev RosterId := Nat
abbrev LoggerId := Nat
abbrev ThrottleId := Nat

end LogThrottle
