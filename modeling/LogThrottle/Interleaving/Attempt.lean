import LogThrottle.Limiter

/-! Attempts and resets of one limiter by any number of callers, one shared access at a time. The
count and the mark are each read and written atomically; the lock keeps resets and the setting of
the mark apart, but counting and the first look at the mark happen outside it. -/
namespace LogThrottle.Interleaving

abbrev Caller := Nat

namespace Attempt

/-- Where a caller stands. A caller that counted an event keeps the number that the event got. -/
inductive Phase where
  | idle
  /-- The event is at or past the limit; the mark is looked at next. -/
  | counted (n : UInt64)
  /-- There was no mark; the lock is taken next. -/
  | owing (n : UInt64)
  /-- With the lock; the count is looked at again next. -/
  | checking (n : UInt64)
  /-- With the lock; the stopwatch is read next. -/
  | timing (n : UInt64)
  /-- With the lock; the mark is set next unless it is set. -/
  | marking (n now : UInt64)
  /-- With the lock; it is given back next and the event passes. -/
  | passing (n : UInt64)
  /-- With the lock, in a reset; the mark is cleared next. -/
  | clearing
  /-- With the lock, in a reset; the count is cleared next. -/
  | emptying (mark : UInt64)
  /-- With the lock, in a reset; it is given back next. -/
  | reset (mark count : UInt64)
  deriving DecidableEq

structure Config where
  limiter : Limiter := {}
  lock : Option Caller := none
  phase : Caller → Phase := fun _ => .idle
  /-- Events counted since the count was last cleared, without wrapping. -/
  events : Nat := 0
  /-- Attempts that returned, the latest first. -/
  returned : List (UInt64 × Decision) := []
  /-- Limiters as resets found them, the latest first. -/
  resets : List Limiter := []

namespace Config

def enter (x : Config) (c : Caller) (p : Phase) : Config :=
  { x with phase := fun d => if d = c then p else x.phase d }

def Quiet (x : Config) : Prop := ∀ c, x.phase c = .idle

end Config

/-- One step of an attempt. -/
inductive Step (limit : UInt32) : Config → Config → Prop where
  | countBelow {x : Config} (c : Caller) : x.phase c = .idle →
      Limiter.below limit x.limiter.ordinal = true →
      Step limit x { x with
        limiter := x.limiter.bump
        events := x.events + 1
        returned := (x.limiter.ordinal, .allow) :: x.returned }
  | countPast {x : Config} (c : Caller) : x.phase c = .idle →
      Limiter.below limit x.limiter.ordinal = false →
      Step limit x { x.enter c (.counted x.limiter.ordinal) with
        limiter := x.limiter.bump
        events := x.events + 1 }
  | seeMark {x : Config} (c : Caller) {n : UInt64} : x.phase c = .counted n →
      x.limiter.isLimited = true →
      Step limit x { x.enter c .idle with returned := (n, .suppress) :: x.returned }
  | seeNone {x : Config} (c : Caller) {n : UInt64} : x.phase c = .counted n →
      x.limiter.isLimited = false → Step limit x (x.enter c (.owing n))
  | acquire {x : Config} (c : Caller) {n : UInt64} : x.phase c = .owing n → x.lock = none →
      Step limit x { x.enter c (.checking n) with lock := some c }
  | findBelow {x : Config} (c : Caller) {n : UInt64} : x.phase c = .checking n →
      Limiter.below limit x.limiter.count = true → Step limit x (x.enter c (.passing n))
  | findPast {x : Config} (c : Caller) {n : UInt64} : x.phase c = .checking n →
      Limiter.below limit x.limiter.count = false → Step limit x (x.enter c (.timing n))
  /-- The stopwatch may read anything. -/
  | readClock {x : Config} (c : Caller) {n : UInt64} (d : Duration) : x.phase c = .timing n →
      Step limit x (x.enter c (.marking n d.clockMillis))
  | setMark {x : Config} (c : Caller) {n now : UInt64} : x.phase c = .marking n now →
      Step limit x { x.enter c (.passing n) with limiter := x.limiter.setMark now }
  | allow {x : Config} (c : Caller) {n : UInt64} : x.phase c = .passing n →
      Step limit x { x.enter c .idle with
        lock := none
        returned := (n, .allow) :: x.returned }

/-- One step of a reset. -/
inductive ResetStep : Config → Config → Prop where
  | acquire {x : Config} (c : Caller) : x.phase c = .idle → x.lock = none →
      ResetStep x { x.enter c .clearing with lock := some c }
  | clearMark {x : Config} (c : Caller) : x.phase c = .clearing →
      ResetStep x { x.enter c (.emptying x.limiter.mark) with
        limiter := { x.limiter with mark := 0 } }
  | clearCount {x : Config} (c : Caller) {mark : UInt64} : x.phase c = .emptying mark →
      ResetStep x { x.enter c (.reset mark x.limiter.count) with
        limiter := { x.limiter with count := 0 }
        events := 0 }
  | release {x : Config} (c : Caller) {mark count : UInt64} : x.phase c = .reset mark count →
      ResetStep x { x.enter c .idle with
        lock := none
        resets := ⟨count, mark⟩ :: x.resets }

/-- What callers bring about from a fresh limiter. -/
inductive Reachable (limit : UInt32) : Config → Prop where
  | start : Reachable limit {}
  | attempt {x y : Config} : Reachable limit x → Step limit x y → Reachable limit y
  | reset {x y : Config} : Reachable limit x → ResetStep x y → Reachable limit y

/-- What the callers numbered below `callers` bring about without a reset. -/
inductive Unreset (limit : UInt32) (callers : Nat) : Config → Prop where
  | start : Unreset limit callers {}
  | attempt {x y : Config} : Unreset limit callers x → Step limit x y →
      (∀ c, callers ≤ c → y.phase c = .idle) → Unreset limit callers y

end Attempt
end LogThrottle.Interleaving
