import LogThrottle.Duration.Text
import LogThrottle.Topic

/-! Digests: the one line that stands for all events of a topic withheld in a period. -/
namespace LogThrottle

structure Digest where
  topic : Topic
  suppressed : UInt64
  /-- Time from reaching the limit to the reset. -/
  elapsed : Duration
  deriving DecidableEq

namespace Digest

def opening : String := "(suppressed "

def text (d : Digest) : String :=
  opening ++ toString d.suppressed ++ " logs similar to '" ++ d.topic.template ++ "' in "
    ++ d.elapsed.text ++ ")"

end Digest
end LogThrottle
