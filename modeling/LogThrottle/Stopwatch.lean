import LogThrottle.Duration
import LogThrottle.Fault

/-! Stopwatches that move only when they are moved. Advancing past the largest duration breaks a
stopwatch for good: it is never moved or read again. A stopwatch may also fail at chosen readings.
-/
namespace LogThrottle

structure Stopwatch where
  reading : Duration := .zero
  broken : Bool := false
  /-- Readings taken so far. -/
  reads : Nat := 0
  /-- The fault raised by the reading of a given number, if any. -/
  fault : Nat → Option Fault := fun _ => none

namespace Stopwatch

instance : Inhabited Stopwatch := ⟨{}⟩

def overflowed : Fault := .text "overflow when adding durations"

def stuck : Fault :=
  .text ("MockStopwatch mutex poisoned - a test thread panicked while holding the lock: "
    ++ "PoisonError \x7b .. \x7d")

def read (w : Stopwatch) : Except Fault Duration × Stopwatch :=
  let w' := { w with reads := w.reads + 1 }
  if w.broken then (.error stuck, w')
  else match w.fault w.reads with
    | some f => (.error f, w')
    | none => (.ok w.reading, w')

def set (w : Stopwatch) (d : Duration) : Except Fault Unit × Stopwatch :=
  if w.broken then (.error stuck, w) else (.ok (), { w with reading := d })

def advance (w : Stopwatch) (d : Duration) : Except Fault Unit × Stopwatch :=
  if w.broken then (.error stuck, w)
  else match w.reading.add? d with
    | some r => (.ok (), { w with reading := r })
    | none => (.error overflowed, { w with broken := true })

inductive Move where
  | advance (d : Duration)
  | set (d : Duration)
  deriving DecidableEq

def move (w : Stopwatch) : Move → Except Fault Unit × Stopwatch
  | .advance d => w.advance d
  | .set d => w.set d

/-- The reading after each of a list of moves, or the fault that the move or the reading raised. -/
def readings (w : Stopwatch) : List Move → List (Except Fault Duration)
  | [] => []
  | m :: ms =>
    match w.move m with
    | (.error f, w) => .error f :: readings w ms
    | (.ok (), w) => let (r, w) := w.read; r :: readings w ms

end Stopwatch
end LogThrottle
