import LogThrottle.Quota

/-! The limiter of one topic: a count of events and the moment at which the limit was reached. The
event that reaches the limit still passes and sets the mark; a set mark withholds what follows. The
pieces of an attempt are definitions of their own, because callers may act between them. -/
namespace LogThrottle

inductive Decision where
  | allow | suppress
  deriving DecidableEq, Inhabited

structure Limiter where
  /-- Events since the last reset; wraps at 2^64. -/
  count : UInt64 := 0
  /-- Clock milliseconds when the limit was reached; zero while it was not. -/
  mark : UInt64 := 0
  deriving DecidableEq, Inhabited

namespace Limiter

def isLimited (s : Limiter) : Bool := s.mark != 0

/-- The number of the next event. It stays at the largest word where the count wraps. -/
def ordinal (s : Limiter) : UInt64 :=
  UInt64.ofNat (min (s.count.toNat + 1) 18_446_744_073_709_551_615)

theorem ordinal_toNat (s : Limiter) :
    s.ordinal.toNat = min (s.count.toNat + 1) 18_446_744_073_709_551_615 := by
  unfold ordinal
  rw [UInt64.toNat_ofNat']
  exact Nat.mod_eq_of_lt (by omega)

def bump (s : Limiter) : Limiter := { s with count := s.count + 1 }

/-- Whether a count is still below the limit. -/
def below (limit : UInt32) (n : UInt64) : Bool := n < limit.toUInt64

theorem below_iff {limit : UInt32} {n : UInt64} : below limit n = true ↔ n.toNat < limit.toNat := by
  simp [below, UInt64.lt_iff_toNat_lt]

/-- Sets the mark unless it is set. -/
def setMark (now : UInt64) (s : Limiter) : Limiter :=
  if s.mark = 0 then { s with mark := now } else s

@[simp] theorem count_setMark (now : UInt64) (s : Limiter) : (s.setMark now).count = s.count := by
  unfold setMark
  split <;> rfl

theorem isLimited_setMark {now : UInt64} (h : now ≠ 0) (s : Limiter) :
    (s.setMark now).isLimited = true := by
  unfold setMark
  split
  · exact bne_iff_ne.mpr h
  · exact bne_iff_ne.mpr ‹_›

/-- What an event with a given number has to do once it is counted. -/
inductive Course where
  | pass
  /-- Record the moment, then pass. -/
  | mark
  | hold
  deriving DecidableEq

def course (limit : UInt32) (n : UInt64) (s : Limiter) : Course :=
  if below limit n then .pass else if s.isLimited then .hold else .mark

/-- One event with nobody in between; the stopwatch would read `now`. The mark is left alone if the
count is below the limit again. -/
def attempt (limit : UInt32) (now : UInt64) (s : Limiter) : Decision × Limiter :=
  match s.bump.course limit s.ordinal with
  | .pass => (.allow, s.bump)
  | .hold => (.suppress, s.bump)
  | .mark => (.allow, if below limit s.bump.count then s.bump else s.bump.setMark now)

def cleared : Limiter := {}

/-- Events withheld since the last reset, as the reset reports them. -/
def withheld (limit : UInt32) (s : Limiter) : UInt64 :=
  if s.isLimited then UInt64.ofNat (s.count.toNat - limit.toNat) else 0

theorem withheld_toNat (limit : UInt32) (s : Limiter) (h : s.isLimited = true) :
    (s.withheld limit).toNat = s.count.toNat - limit.toNat := by
  rw [withheld, if_pos h, UInt64.toNat_ofNat']
  exact Nat.mod_eq_of_lt (by have := s.count.toNat_lt; omega)

/-- Time from the mark to a reset at which the stopwatch reads `now`; nothing if it moved back. -/
def sinceMark (now : UInt64) (s : Limiter) : Duration :=
  .ofMillis (UInt64.ofNat (now.toNat - s.mark.toNat))

end Limiter
end LogThrottle
