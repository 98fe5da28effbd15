import RecordBinding.Number.Decimal

namespace RecordBinding

/-- A number being turned from powers of two into powers of ten: its value is
`digits` times ten to the power of `tens`, once the factors of five still owed
have been paid. -/
structure DecimalDraft where
  digits : Nat
  tens : Int

namespace DecimalDraft

/-- A negative power of two is a power of ten with as many factors of five.
While the digits are even a factor two goes into the power of ten instead, and
where a factor of five no longer fits in 96 bits the lowest bit is given up. -/
def payFives (draft : DecimalDraft) : Nat → DecimalDraft
  | 0 => draft
  | owed + 1 =>
    if draft.digits % 2 = 0 then payFives ⟨draft.digits / 2, draft.tens + 1⟩ owed
    else if draft.digits * 5 < 1 <<< 96 then payFives ⟨draft.digits * 5, draft.tens⟩ owed
    else payFives ⟨draft.digits / 2, draft.tens + 1⟩ owed

/-- A positive power of two divides by five in steps: doubling where the digits
leave room, and otherwise a division that loses the rest. Fails when the power
of ten left over cannot be paid back. -/
def divideFives (draft : DecimalDraft) : Nat → Option DecimalDraft
  | 0 => some draft
  | owed + 1 =>
    if draft.digits < 1 <<< 95 then divideFives ⟨draft.digits * 2, draft.tens - 1⟩ owed
    else if 2 * draft.tens > owed + 1 then none
    else divideFives ⟨draft.digits / 5, draft.tens⟩ owed

/-- A power of ten above the point goes into the digits, as long as they fit. -/
def raiseTens (draft : DecimalDraft) : Nat → Option DecimalDraft
  | 0 => some draft
  | tens + 1 =>
    if draft.digits * 10 < 1 <<< 96 then raiseTens ⟨draft.digits * 10, draft.tens - 1⟩ tens
    else none

/-- The last digit cut off, five and more rounding up. -/
def dropDigit (draft : DecimalDraft) : DecimalDraft :=
  ⟨draft.digits / 10 + (if 5 ≤ draft.digits % 10 then 1 else 0), draft.tens + 1⟩

/-- More than 28 places after the point are rounded off one by one. When nothing
is left the number is zero with no places, and its last digit is not rounded. -/
def limitPlaces (draft : DecimalDraft) : Nat → DecimalDraft
  | 0 => draft
  | surplus + 1 =>
    if draft.digits / 10 = 0 then ⟨0, 0⟩ else limitPlaces draft.dropDigit surplus

/-- Digits that the significand cannot vouch for are rounded off. -/
def limitDigits (draft : DecimalDraft) (limit : Nat) : Nat → DecimalDraft
  | 0 => draft
  | places + 1 =>
    if limit ≤ draft.digits then limitDigits draft.dropDigit limit places else draft

def trimZeros (draft : DecimalDraft) : Nat → DecimalDraft
  | 0 => draft
  | places + 1 =>
    if draft.digits % 10 = 0 then trimZeros ⟨draft.digits / 10, draft.tens + 1⟩ places else draft

end DecimalDraft

namespace Binary

/-- A finite datum as a decimal, with digits kept only below a limit as long as
there are places to drop. Data too large for 96 bits have no decimal. -/
def toDecimalWithin? {format : BinaryFormat} (limit : Nat) (x : Binary format) : Option Decimal := do
  guard x.isFinite
  if x.isZero then return .zero
  let exponent : Int := (x.shift : Int) - format.unitWidth
  let start : DecimalDraft := ⟨x.significand, exponent⟩
  let paid ← if exponent < 0 then pure (start.payFives exponent.natAbs)
    else start.divideFives exponent.natAbs
  let raised ← paid.raiseTens paid.tens.toNat
  let placed := raised.limitPlaces (-28 - raised.tens).toNat
  let kept := placed.limitDigits limit (-placed.tens).toNat
  let final := kept.trimZeros (-kept.tens).toNat
  Decimal.ofParts? (withSign x.negative final.digits) (-final.tens).toNat

end Binary

/-- Double precision vouches for fifteen to sixteen digits. -/
def Double.toDecimal? (x : Double) : Option Decimal := x.toDecimalWithin? (1 <<< 52)

/-- Single precision vouches for seven to eight digits. -/
def Single.toDecimal? (x : Single) : Option Decimal := x.toDecimalWithin? (1 <<< 24)

end RecordBinding
