import RecordBinding.Number.Rounding

namespace RecordBinding

/-- A binary interchange format: the widths of the exponent field and of the
fraction field below it. A sign bit stands above both. -/
structure BinaryFormat where
  exponentWidth : Nat
  fractionWidth : Nat
  deriving DecidableEq

namespace BinaryFormat

def single : BinaryFormat := ⟨8, 23⟩
def double : BinaryFormat := ⟨11, 52⟩

/-- Width of everything below the sign bit. -/
def bodyWidth (format : BinaryFormat) : Nat := format.exponentWidth + format.fractionWidth

/-- The exponent field of infinities and of data that are not numbers. -/
def topExponent (format : BinaryFormat) : Nat := 1 <<< format.exponentWidth - 1

/-- The body of an infinity. -/
def infinityBody (format : BinaryFormat) : Nat := format.topExponent <<< format.fractionWidth

/-- Every finite datum is a whole multiple of the smallest subnormal, which is
two to the power of minus this number. -/
def unitWidth (format : BinaryFormat) : Nat :=
  1 <<< (format.exponentWidth - 1) + format.fractionWidth - 2

theorem one_shiftLeft_pos (width : Nat) : 0 < 1 <<< width := by
  rw [Nat.one_shiftLeft]
  exact Nat.two_pow_pos width

theorem infinityBody_lt (format : BinaryFormat) :
    format.infinityBody < 1 <<< format.bodyWidth := by
  have top : format.topExponent < 1 <<< format.exponentWidth := by
    have := one_shiftLeft_pos format.exponentWidth
    unfold topExponent; omega
  rw [infinityBody, bodyWidth, Nat.one_shiftLeft, Nat.pow_add, Nat.shiftLeft_eq]
  rw [Nat.one_shiftLeft] at top
  exact Nat.mul_lt_mul_of_pos_right top (Nat.two_pow_pos _)

end BinaryFormat

/-- A floating point datum, kept as its bit pattern: the sign bit and the bits
below it. -/
structure Binary (format : BinaryFormat) where
  negative : Bool
  body : Nat
  body_lt : body < 1 <<< format.bodyWidth
  deriving DecidableEq

abbrev Single : Type := Binary .single
abbrev Double : Type := Binary .double

namespace Binary

variable {format : BinaryFormat}

def bits (x : Binary format) : Nat := (if x.negative then 1 <<< format.bodyWidth else 0) + x.body

def ofBits (format : BinaryFormat) (bits : Nat) : Binary format where
  negative := bits >>> format.bodyWidth % 2 == 1
  body := bits % (1 <<< format.bodyWidth)
  body_lt := Nat.mod_lt _ (BinaryFormat.one_shiftLeft_pos _)

def zero (format : BinaryFormat) : Binary format := ⟨false, 0, BinaryFormat.one_shiftLeft_pos _⟩

def infinity (format : BinaryFormat) (negative : Bool) : Binary format :=
  ⟨negative, format.infinityBody, format.infinityBody_lt⟩

/-- The quiet datum that is not a number: the leading fraction bit is set. -/
def nan (format : BinaryFormat) : Binary format :=
  ofBits format (format.infinityBody + 1 <<< (format.fractionWidth - 1))

def exponentField (x : Binary format) : Nat := x.body >>> format.fractionWidth

def fraction (x : Binary format) : Nat := x.body % (1 <<< format.fractionWidth)

def isFinite (x : Binary format) : Bool := x.exponentField < format.topExponent

def isNan (x : Binary format) : Bool := !x.isFinite && x.fraction != 0

def isZero (x : Binary format) : Bool := x.body == 0

/-- The fraction with the leading bit that normal data leave unwritten. -/
def significand (x : Binary format) : Nat :=
  if x.exponentField = 0 then x.fraction else 1 <<< format.fractionWidth + x.fraction

/-- How far the significand is shifted, counted in bits above the unit. -/
def shift (x : Binary format) : Nat := x.exponentField - 1

/-- The absolute value of a finite datum, in units of the smallest subnormal. -/
def magnitude (x : Binary format) : Nat := x.significand <<< x.shift

/-- Equality of the numbers denoted: the two zeros are equal, and what is not a
number equals nothing. -/
def equals (x y : Binary format) : Bool :=
  !x.isNan && !y.isNan && (x.isZero && y.isZero || x.negative == y.negative && x.body == y.body)

/-- The body of the datum nearest to `num / den`, ties to even. The quotient is
taken in units of the smallest subnormal, as many low bits as do not fit are
rounded off, and a carry out of the significand moves into the exponent field
by itself. Beyond the largest finite datum lies infinity. -/
def nearestBody (format : BinaryFormat) (num den : Nat) : Nat :=
  let scaled := num <<< format.unitWidth
  let excess := (scaled / den).log2 - format.fractionWidth
  Nat.min (excess <<< format.fractionWidth + roundDiv scaled (den <<< excess))
    format.infinityBody

def ofRatio (format : BinaryFormat) (negative : Bool) (num den : Nat) : Binary format :=
  ⟨negative, nearestBody format num den,
    Nat.lt_of_le_of_lt (Nat.min_le_right ..) format.infinityBody_lt⟩

/-- The datum nearest to a whole number. -/
def ofInt (format : BinaryFormat) (n : Int) : Binary format :=
  ofRatio format (n < 0) n.natAbs 1

/-- The datum of another format nearest to this one. Widening is exact. -/
def convert (target : BinaryFormat) (x : Binary format) : Binary target :=
  if x.isNan then nan target
  else if x.isFinite then ofRatio target x.negative x.magnitude (1 <<< format.unitWidth)
  else infinity target x.negative

/-- The whole number nearest to a finite datum, ties to even. -/
def nearestInt (x : Binary format) : Int :=
  withSign x.negative (roundDiv x.magnitude (1 <<< format.unitWidth))

end Binary

end RecordBinding
