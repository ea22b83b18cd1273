import LogThrottle.Interleaving.Attempt
import LogThrottle.System.Reach

/-! Lookups on one logger of a system by any number of callers, while anything else happens to the system. An
overflow is done behind a lock: a caller that finds the catalogue over capacity waits for the lock, looks at the size
again, overflows, and lets go of the lock, whether or not the sink refused the warning. What is done with the lock in
hand is one step here, and so is bringing in a topic. -/
namespace LogThrottle.Interleaving.Overflow

inductive Phase where
  | idle
  /-- The topic was not found in a catalogue over capacity; the lock is taken next. -/
  | waiting (topic : Topic)
  /-- With the lock; the size is looked at again next. -/
  | inside (topic : Topic)
  /-- There is room; the topic is introduced next. -/
  | entering (topic : Topic)
  deriving DecidableEq

structure Config where
  system : System
  lock : Option Caller := none
  phase : Caller → Phase := fun _ => .idle
  /-- Answers of the lookups that ended, the latest first. -/
  returned : List (Caller × Topic × Except Fault ThrottleId) := []

namespace Config

def enter (x : Config) (c : Caller) (p : Phase) : Config :=
  { x with phase := fun d => if d = c then p else x.phase d }

/-- The end of a caller's lookup, with its answer and the system that it leaves. -/
def answer (x : Config) (c : Caller) (topic : Topic) (result : Except Fault ThrottleId × System) : Config :=
  { x.enter c .idle with
    system := result.2
    returned := (c, topic, result.1) :: x.returned }

/-- No caller is about to overflow the catalogue. -/
def Settled (x : Config) : Prop := ∀ c topic, x.phase c ≠ .inside topic

end Config

/-- An action that does not look up a topic of the logger. -/
def Elsewhere (l : LoggerId) : Action → Prop
  | .lookup i _ | .log i _ _ _ => i ≠ l
  | _ => True

/-- One step of a lookup, or anything else. A logging call is a lookup and then one through its throttle. -/
inductive Step (l : LoggerId) : Config → Config → Prop where
  | find {x : Config} (c : Caller) (topic : Topic) {t : ThrottleId} : x.phase c = .idle →
      (x.system.logger l).catalogue.find? topic = some t → Step l x (x.answer c topic (.ok t, x.system))
  | room {x : Config} (c : Caller) (topic : Topic) : x.phase c = .idle →
      (x.system.logger l).catalogue.find? topic = none →
      (x.system.logger l).catalogue.size ≤ (x.system.logger l).capacity → Step l x (x.enter c (.entering topic))
  | crowd {x : Config} (c : Caller) (topic : Topic) : x.phase c = .idle →
      (x.system.logger l).catalogue.find? topic = none →
      (x.system.logger l).capacity < (x.system.logger l).catalogue.size → Step l x (x.enter c (.waiting topic))
  | acquire {x : Config} (c : Caller) {topic : Topic} : x.phase c = .waiting topic → x.lock = none →
      Step l x { x.enter c (.inside topic) with lock := some c }
  | recovered {x : Config} (c : Caller) {topic : Topic} : x.phase c = .inside topic →
      (x.system.logger l).catalogue.size ≤ (x.system.logger l).capacity →
      Step l x { x.enter c (.entering topic) with lock := none }
  | refused {x : Config} (c : Caller) {topic : Topic} {f : Fault} {s : System} : x.phase c = .inside topic →
      (x.system.logger l).capacity < (x.system.logger l).catalogue.size →
      (System.overflow l).exec x.system = (.error f, s) →
      Step l x { x.answer c topic (.error f, s) with lock := none }
  | emptied {x : Config} (c : Caller) {topic : Topic} {s : System} : x.phase c = .inside topic →
      (x.system.logger l).capacity < (x.system.logger l).catalogue.size →
      (System.overflow l).exec x.system = (.ok (), s) →
      Step l x { x.enter c (.entering topic) with system := s, lock := none }
  | introduce {x : Config} (c : Caller) {topic : Topic} : x.phase c = .entering topic →
      Step l x (x.answer c topic ((System.introduce l topic).exec x.system))
  | other {x : Config} (a : Action) : Elsewhere l a → a.Ready x.system →
      Step l x { x with system := x.system.after a }

inductive Reachable (l : LoggerId) : Config → Prop where
  | start {s : System} : s.Reachable → Reachable l { system := s }
  | step {x y : Config} : Reachable l x → Step l x y → Reachable l y

end LogThrottle.Interleaving.Overflow
