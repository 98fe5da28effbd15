import RecordBinding.Value.Basic
import RecordBinding.Number.Int128
import RecordBinding.Number.DecimalOfBinary

namespace RecordBinding.Value

/-- The value as a whole number, if it can be read as one. Fractions round to
the nearest, ties to even; a truth value is 0 or 1, a character its code point
and an enumerated value its ordinal. Text is never parsed. -/
def toInteger? : Value → Option Int
  | bool b => some (if b then 1 else 0)
  | char c => some c.toNat
  | enum tag => some tag.ordinal
  | int _ n => some n.val
  | single x => (x.convert .double).toInt128?
  | double x => x.toInt128?
  | decimal d => some d.nearestInt
  | _ => none

/-- Narrowing is range checked and fails rather than truncating. -/
def toInt? (kind : IntKind) (v : Value) : Option kind.Number := v.toInteger?.bind kind.ofInt?

/-- The value as a floating point number, if it is numeric. A character can be
read as a whole number but is none. -/
def toDouble? : Value → Option Double
  | single x => some (x.convert .double)
  | double x => some x
  | decimal d => some d.toDouble
  | char _ => none
  | v => v.toInteger?.map (.ofInt .double)

/-- Single precision is reached through double precision. -/
def toSingle? : Value → Option Single
  | single x => some x
  | v => v.toDouble?.map (.convert .single)

def toDecimal? : Value → Option Decimal
  | decimal d => some d
  | single x => x.toDecimal?
  | double x => x.toDecimal?
  | char _ => none
  | v => v.toInteger?.bind Decimal.ofInt?

/-- Whatever is not zero is true, also what is not a number. -/
def toBool? : Value → Option Bool
  | bool b => some b
  | char _ => none
  | single x => some !x.isZero
  | double x => some !x.isZero
  | decimal d => some !d.isZero
  | v => v.toInteger?.map (· != 0)

/-- The character with a code point, if there is one. -/
def charOfInt? (n : Int) : Option Char :=
  if valid : 0 ≤ n ∧ n.toNat.isValidChar then some (Char.ofNatAux n.toNat valid.2) else none

/-- Only whole numbers name a character. -/
def toChar? : Value → Option Char
  | char c => some c
  | bool _ => none
  | single _ => none
  | double _ => none
  | decimal _ => none
  | v => v.toInteger?.bind charOfInt?

end RecordBinding.Value
