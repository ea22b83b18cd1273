import LogThrottle.Duration

/-! Written form of a duration: the largest of s, ms, µs and ns with a whole part, then every
fractional digit that is needed and no trailing zero. -/
namespace LogThrottle.Duration

/-- The lowest `places` decimal digits of a number, most significant first. -/
def digits : Nat → Nat → List Char
  | 0, _ => []
  | places + 1, n => digits places (n / 10) ++ [Nat.digitChar (n % 10)]

/-- Fractional digits after the point, without trailing zeros and without a point if none is left.
-/
def fraction (places n : Nat) : List Char :=
  match ((digits places n).reverse.dropWhile (· = '0')).reverse with
  | [] => []
  | ds => '.' :: ds

/-- A number of nanoseconds counted in units of 10^places nanoseconds. -/
def inUnit (places : Nat) (name : String) (n : Nat) : List Char :=
  Nat.toDigits 10 (n / Nat.pow 10 places) ++ fraction places (n % Nat.pow 10 places)
    ++ name.toList

def chars (d : Duration) : List Char :=
  if 1_000_000_000 ≤ d.nanos then inUnit 9 "s" d.nanos
  else if 1_000_000 ≤ d.nanos then inUnit 6 "ms" d.nanos
  else if 1_000 ≤ d.nanos then inUnit 3 "µs" d.nanos
  else inUnit 0 "ns" d.nanos

def text (d : Duration) : String := String.ofList d.chars

end LogThrottle.Duration
