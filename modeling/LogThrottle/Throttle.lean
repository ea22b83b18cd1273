import LogThrottle.Ids
import LogThrottle.Limiter
import LogThrottle.Topic

/-! Throttles: the limiter of one topic of one logger, with a stamp that remembers in which epoch of
a roster it was last enrolled. -/
namespace LogThrottle

/-- The stamp of a throttle that was never enrolled. -/
def neverEnrolled : UInt64 := 0xffffffffffffffff

structure Throttle where
  topic : Topic
  logger : LoggerId
  limiter : Limiter := {}
  stamp : UInt64 := neverEnrolled
  deriving DecidableEq, Inhabited

end LogThrottle
