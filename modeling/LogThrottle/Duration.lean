/-! Lengths of time in whole nanoseconds below 2^64 seconds. Sums are exact or refused; clock
readings in milliseconds are clamped so that zero stays free for "no reading". -/
namespace LogThrottle

structure Duration where
  nanos : Nat
  nanos_lt : nanos < 18_446_744_073_709_551_616_000_000_000
  deriving DecidableEq

namespace Duration

def zero : Duration := ⟨0, by decide⟩

instance : Inhabited Duration := ⟨zero⟩

/-- Seconds below 2^64 and nanoseconds below one second, or nothing. -/
def ofParts? (seconds nanos : Nat) : Option Duration :=
  if h : seconds < 18_446_744_073_709_551_616 ∧ nanos < 1_000_000_000 then
    some ⟨seconds * 1_000_000_000 + nanos, by omega⟩
  else none

def ofMillis (m : UInt64) : Duration :=
  ⟨m.toNat * 1_000_000, by have := m.toNat_lt; omega⟩

def seconds (d : Duration) : Nat := d.nanos / 1_000_000_000

/-- Nanoseconds beyond the whole seconds. -/
def subsecond (d : Duration) : Nat := d.nanos % 1_000_000_000

def add? (a b : Duration) : Option Duration :=
  if h : a.nanos + b.nanos < 18_446_744_073_709_551_616_000_000_000 then
    some ⟨a.nanos + b.nanos, h⟩
  else none

def millis (d : Duration) : Nat := d.nanos / 1_000_000

/-- Whole milliseconds, at least 1 and at most 2^64 - 1. -/
def clockMillis (d : Duration) : UInt64 :=
  UInt64.ofNat (max 1 (min d.millis 18_446_744_073_709_551_615))

theorem clockMillis_toNat (d : Duration) :
    d.clockMillis.toNat = max 1 (min d.millis 18_446_744_073_709_551_615) := by
  unfold clockMillis
  rw [UInt64.toNat_ofNat']
  exact Nat.mod_eq_of_lt (by omega)

theorem clockMillis_ne_zero (d : Duration) : d.clockMillis ≠ 0 := by
  intro h
  have := d.clockMillis_toNat
  rw [h, UInt64.toNat_zero] at this
  omega

end Duration
end LogThrottle
