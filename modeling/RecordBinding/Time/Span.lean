import RecordBinding.Time.DateTime

namespace RecordBinding

/-- Nanoseconds of the longest signed span, a 64-bit number of milliseconds. -/
def maxSpanNanos : Int := ((1 <<< 63 : Nat) - 1) * 1000000

/-- A signed span of time in nanoseconds. -/
structure TimeSpan where
  nanos : Int
  bounded : -maxSpanNanos ≤ nanos ∧ nanos ≤ maxSpanNanos
  deriving DecidableEq

/-- An unsigned span of time in nanoseconds, at most a 64-bit number of seconds. -/
structure Duration where
  nanos : Nat
  bounded : nanos < (1 <<< 64) * 1000000000
  deriving DecidableEq

namespace TimeSpan

def zero : TimeSpan := ⟨0, by decide⟩

def longest : TimeSpan := ⟨maxSpanNanos, by decide⟩

def ofNanos? (nanos : Int) : Option TimeSpan :=
  if bounded : -maxSpanNanos ≤ nanos ∧ nanos ≤ maxSpanNanos then some ⟨nanos, bounded⟩ else none

/-- Whole seconds, rounded down. -/
def seconds (t : TimeSpan) : Int := t.nanos.fdiv 1000000000

/-- Nanoseconds above the whole seconds. -/
def subsecond (t : TimeSpan) : Nat := (t.nanos.fmod 1000000000).toNat

/-- Only spans that are not negative are durations. -/
def toDuration? (t : TimeSpan) : Option Duration :=
  if negative : t.nanos < 0 then none
  else some ⟨t.nanos.toNat, by
    have := t.bounded.2
    unfold maxSpanNanos at this
    omega⟩

/-- A duration as a span, the longest span standing for everything beyond it. -/
def ofDuration (d : Duration) : TimeSpan :=
  if within : (d.nanos : Int) ≤ maxSpanNanos then
    ⟨d.nanos, by unfold maxSpanNanos at *; omega, within⟩
  else longest

/-- Seconds with as many places as needed after a period mark, and a sign in
front of it. Zero is written as no days. -/
def text (t : TimeSpan) : String :=
  let n := t.nanos.natAbs
  let digits := (DateTime.padded 9 (n % 1000000000)).toList
  let places := (digits.reverse.dropWhile (· == '0')).reverse
  if n = 0 then "P0D"
  else
    (if t.nanos < 0 then "-" else "") ++ "PT" ++ toString (n / 1000000000) ++
      (if places.isEmpty then "" else "." ++ String.ofList places) ++ "S"

end TimeSpan

namespace Duration

def zero : Duration := ⟨0, by decide⟩

def ofParts? (seconds nanos : Nat) : Option Duration :=
  if bounded : seconds * 1000000000 + nanos < (1 <<< 64) * 1000000000 then some ⟨_, bounded⟩ else none

end Duration

end RecordBinding
