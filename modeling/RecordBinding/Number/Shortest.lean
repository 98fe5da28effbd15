import RecordBinding.Number.Binary

namespace RecordBinding

/-- Number of digits of a whole number, none for zero. -/
def digitCount (n : Nat) : Nat := if n = 0 then 0 else (Nat.toDigits 10 n).length

/-- The power of ten at or below `num / den`. -/
def decimalExponent (num den : Nat) : Int :=
  if den ≤ num then digitCount (num / den) - 1 else -digitCount ((den - 1) / num)

/-- A decimal number, the digits read as one whole number times a power of ten. -/
structure Decimals where
  digits : Nat
  exponent : Int
  deriving DecidableEq

/-- An interval of positive rationals over one denominator, with a number
inside it. The ends belong to it or not together. -/
structure RoundingInterval where
  low : Nat
  value : Nat
  high : Nat
  den : Nat
  closed : Bool

namespace RoundingInterval

/-- A point of the grid of multiples of a power of ten, over the interval's
denominator, both sides scaled to whole numbers. -/
def contains (interval : RoundingInterval) (d : Decimals) : Bool :=
  let point := d.digits * interval.den * Nat.pow 10 d.exponent.toNat
  let low := interval.low * Nat.pow 10 (-d.exponent).toNat
  let high := interval.high * Nat.pow 10 (-d.exponent).toNat
  if interval.closed then low ≤ point && point ≤ high else low < point && point < high

/-- The neighbours of the value on the grid of one power of ten, of which the
nearer one inside the interval is taken, and the upper one halfway between them. -/
def onGrid? (interval : RoundingInterval) (exponent : Int) : Option Decimals :=
  let num := interval.value * Nat.pow 10 (-exponent).toNat
  let den := interval.den * Nat.pow 10 exponent.toNat
  let below : Decimals := ⟨num / den, exponent⟩
  let above : Decimals := ⟨num / den + 1, exponent⟩
  match interval.contains below, interval.contains above with
  | true, true => some (if 2 * (num % den) < den then below else above)
  | true, false => some below
  | false, true => some above
  | false, false => none

/-- Grids from coarse to fine, until one meets the interval. -/
def shortestFrom (interval : RoundingInterval) (exponent : Int) : Nat → Decimals
  | 0 => ⟨0, 0⟩
  | grids + 1 =>
    match interval.onGrid? exponent with
    | some d => d
    | none => interval.shortestFrom (exponent - 1) grids

/-- The shortest decimal inside the interval and the nearest one of that length.
The grids stop at the twentieth, three digits below the last that can be needed. -/
def shortest (interval : RoundingInterval) : Decimals :=
  interval.shortestFrom (decimalExponent interval.value interval.den) 20

end RoundingInterval

/-- The reals that round to a datum reach halfway to its neighbours. Below a
power of two the neighbour is twice as close. -/
def Binary.roundingInterval {format : BinaryFormat} (x : Binary format) : RoundingInterval where
  low :=
    if x.fraction = 0 ∧ 1 < x.exponentField then 4 * x.magnitude - 1 <<< x.shift
    else 4 * x.magnitude - 2 <<< x.shift
  value := 4 * x.magnitude
  high := 4 * x.magnitude + 2 <<< x.shift
  den := 4 <<< format.unitWidth
  closed := x.significand % 2 == 0

/-- The fewest digits that read back as the datum's absolute value. -/
def Binary.shortest {format : BinaryFormat} (x : Binary format) : Decimals :=
  if x.isZero then ⟨0, 0⟩ else x.roundingInterval.shortest

/-- Digits with the point set before the last `places` of them. -/
def pointed (digits : List Char) (places : Nat) : String :=
  let padded := List.replicate (places + 1 - digits.length) '0' ++ digits
  String.ofList (padded.take (padded.length - places)) ++ "." ++
    String.ofList (padded.drop (padded.length - places))

/-- Positional notation, with zeros in place of an exponent. -/
def Decimals.positional (d : Decimals) : String :=
  let digits := Nat.toDigits 10 d.digits
  if 0 ≤ d.exponent then String.ofList (digits ++ List.replicate d.exponent.toNat '0')
  else pointed digits d.exponent.natAbs

/-- One digit before the point and an exponent after the letter e. -/
def Decimals.scientific (d : Decimals) : String :=
  let digits := Nat.toDigits 10 d.digits
  let exponent := d.exponent + (digits.length - 1 : Nat)
  match digits with
  | [] => ""
  | [c] => c.toString ++ "e" ++ toString exponent
  | c :: rest => c.toString ++ "." ++ String.ofList rest ++ "e" ++ toString exponent

/-- Trailing zeros moved into the exponent. -/
def Decimals.trimmed (d : Decimals) : Decimals :=
  let digits := Nat.toDigits 10 d.digits
  let zeros := (digits.reverse.takeWhile (· == '0')).length
  if d.digits = 0 then ⟨0, 0⟩ else ⟨d.digits / Nat.pow 10 zeros, d.exponent + zeros⟩

namespace Binary

variable {format : BinaryFormat}

/-- A datum's sign and text, the number itself written by the given notation. -/
def spell (style : Decimals → String) (x : Binary format) : String :=
  if x.isNan then "NaN"
  else (if x.negative then "-" else "") ++
    (if x.isFinite then style x.shortest.trimmed else "inf")

/-- Always positional, and without a fraction for a whole number. -/
def display (x : Binary format) : String := x.spell Decimals.positional

/-- A whole number keeps a fraction of zero. Beyond sixteen digits before the
point, and below a ten-thousandth, the notation is scientific. -/
def debugText (x : Binary format) : String :=
  x.spell fun d =>
    let leading := d.exponent + digitCount d.digits - 1
    if d.digits ≠ 0 ∧ (leading < -4 ∨ 16 ≤ leading) then d.scientific
    else if 0 ≤ d.exponent then d.positional ++ ".0" else d.positional

end Binary

end RecordBinding
