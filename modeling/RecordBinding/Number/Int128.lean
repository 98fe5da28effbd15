import RecordBinding.Number.Binary
import RecordBinding.Number.IntKind

namespace RecordBinding

/-- The least number of the 128-bit signed range. -/
def int128Min : Int := -(1 <<< 127 : Nat)

/-- The greatest number of the 128-bit signed range. -/
def int128Max : Int := (1 <<< 127 : Nat) - 1

theorem int128Min_le_min (kind : IntKind) : int128Min ≤ kind.min := by
  cases kind <;> decide

/-- A counter that has passed the greatest number of a type is still in the range. -/
theorem IntKind.max_lt_int128Max (kind : IntKind) : kind.max < int128Max := by
  cases kind <;> decide

/-- A datum rounded to a 128-bit whole number. The range is tested on floating
point data, where its upper end is the power of two above the greatest number,
and what passes the test is clamped to the range. -/
def Binary.toInt128? {format : BinaryFormat} (x : Binary format) : Option Int :=
  if x.isFinite ∧ int128Min ≤ x.nearestInt ∧ x.nearestInt ≤ (1 <<< 127 : Nat) then
    some (min x.nearestInt int128Max)
  else none

end RecordBinding
