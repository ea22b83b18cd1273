/-! Tallies: what a logger let through, withheld, summed up and how often it ran out of room. The
four counts wrap at 2^64; their total stays at the largest word instead. -/
namespace LogThrottle

structure Tally where
  allowed : UInt64 := 0
  suppressed : UInt64 := 0
  digests : UInt64 := 0
  overflows : UInt64 := 0
  deriving DecidableEq, Inhabited

namespace Tally

def countAllowed (t : Tally) : Tally := { t with allowed := t.allowed + 1 }
def countSuppressed (t : Tally) : Tally := { t with suppressed := t.suppressed + 1 }
def countDigest (t : Tally) : Tally := { t with digests := t.digests + 1 }
def countOverflow (t : Tally) : Tally := { t with overflows := t.overflows + 1 }

/-- Events seen, allowed or not. -/
def total (t : Tally) : UInt64 :=
  UInt64.ofNat (min (t.allowed.toNat + t.suppressed.toNat) 18_446_744_073_709_551_615)

theorem total_toNat (t : Tally) :
    t.total.toNat = min (t.allowed.toNat + t.suppressed.toNat) 18_446_744_073_709_551_615 := by
  unfold total
  rw [UInt64.toNat_ofNat']
  exact Nat.mod_eq_of_lt (by omega)

/-- The share of suppressed events: both numbers are rounded to the nearest double, then divided. -/
def suppressionRate (t : Tally) : Float :=
  if t.total = 0 then 0.0 else t.suppressed.toFloat / t.total.toFloat

end Tally
end LogThrottle
