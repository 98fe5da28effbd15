import RecordBinding.Number.Shortest

namespace RecordBinding

/-- An exact decimal number: a whole number of at most 96 bits over a power of
ten. The scale is part of it, so `1.5` and `1.50` are two data for one number. -/
structure Decimal where
  mantissa : Int
  scale : Nat
  mantissa_lt : mantissa.natAbs < 1 <<< 96
  scale_le : scale ≤ 28
  deriving DecidableEq

namespace Decimal

def zero : Decimal := ⟨0, 0, by decide, by decide⟩

def ofParts? (mantissa : Int) (scale : Nat) : Option Decimal :=
  if fits : mantissa.natAbs < 1 <<< 96 ∧ scale ≤ 28 then some ⟨mantissa, scale, fits.1, fits.2⟩
  else none

/-- Whole numbers beyond 96 bits have no decimal. -/
def ofInt? (n : Int) : Option Decimal := ofParts? n 0

def isZero (d : Decimal) : Bool := d.mantissa == 0

/-- Equality of the numbers, whatever the scales. -/
def equals (a b : Decimal) : Bool := a.mantissa * Nat.pow 10 b.scale == b.mantissa * Nat.pow 10 a.scale

/-- The nearest whole number, ties to even. -/
def nearestInt (d : Decimal) : Int :=
  withSign (d.mantissa < 0) (roundDiv d.mantissa.natAbs (Nat.pow 10 d.scale))

/-- As many digits after the point as the scale says. -/
def display (d : Decimal) : String :=
  let digits := Nat.toDigits 10 d.mantissa.natAbs
  (if d.mantissa < 0 then "-" else "") ++
    (if d.scale = 0 then String.ofList digits else pointed digits d.scale)

/-- The nearest datum to a fraction of two data, both finite. -/
private def quotient (x y : Double) : Double := .ofRatio .double false x.magnitude y.magnitude

/-- A decimal with a fraction becomes a datum in steps, each of them rounded:
the fraction's quotient, its sum with the whole part, and that sum cut to the
decimal's own number of places. -/
def toDouble (d : Decimal) : Double :=
  let power := Nat.pow 10 d.scale
  let whole := Binary.ofInt .double ((d.mantissa.natAbs / power : Nat) : Int)
  let fraction := quotient (.ofInt .double ((d.mantissa.natAbs % power : Nat) : Int))
    (.ofInt .double (power : Nat))
  let unit := 1 <<< BinaryFormat.double.unitWidth
  let magnitude :=
    if d.scale = 0 ∨ fraction.isZero then whole
    else
      let sum := Binary.ofRatio .double false (whole.magnitude + fraction.magnitude) unit
      let factor := Binary.ofInt .double (power : Nat)
      let scaled := Binary.ofRatio .double false (sum.magnitude * factor.magnitude) (unit * unit)
      quotient (.ofInt .double ((roundDivAway scaled.magnitude unit : Nat) : Int)) factor
  { magnitude with negative := d.mantissa < 0 }

end Decimal

end RecordBinding
