import Mathlib.Algebra.Order.Field.Basic
import Mathlib.Data.Rat.Cast.Order
import Mathlib.Tactic.Ring
import RecordBinding.Number.Binary

namespace RecordBinding

/-- The exponent field of data from one up to two. -/
def BinaryFormat.bias (format : BinaryFormat) : ℤ := 2 ^ (format.exponentWidth - 1) - 1

theorem roundDiv_mul_self {d : Nat} (pos : 0 < d) (n : Nat) : roundDiv (n * d) d = n := by
  have quotient : n * d / d = n := Nat.mul_div_cancel n pos
  have remainder : n * d % d = 0 := Nat.mul_mod_left n d
  rw [roundDiv, quotient, remainder, if_pos (Or.inl pos)]

namespace Binary

variable {format : BinaryFormat}

/-- The number that a finite datum stands for. Subnormal data have the least exponent of
normal ones and no leading bit. -/
def toRat (x : Binary format) : ℚ :=
  (if x.negative then -1 else 1) * x.significand *
    2 ^ ((max x.exponentField 1 : ℤ) - format.bias - format.fractionWidth)

def toRat? (x : Binary format) : Option ℚ := if x.isFinite then some x.toRat else none

/-- All exponents are counted from that of the smallest subnormal. -/
theorem exponent_eq (wide : 2 ≤ format.exponentWidth) (x : Binary format) :
    (max x.exponentField 1 : ℤ) - format.bias - format.fractionWidth =
      x.shift - format.unitWidth := by
  have two : 2 ≤ 2 ^ (format.exponentWidth - 1) :=
    Nat.pow_le_pow_right (n := 2) Nat.two_pos (by omega : 1 ≤ format.exponentWidth - 1)
  have power : (2 : ℤ) ^ (format.exponentWidth - 1) = (2 ^ (format.exponentWidth - 1) : Nat) := by
    push_cast
    rfl
  simp only [BinaryFormat.bias, BinaryFormat.unitWidth, shift, Nat.one_shiftLeft, power]
  omega

theorem withSign_eq (negative : Bool) (n : Nat) :
    (withSign negative n : ℚ) = (if negative then -1 else 1) * n := by
  cases negative <;> simp [withSign]

/-- The magnitude counts the number in units of the smallest subnormal. -/
theorem toRat_eq (wide : 2 ≤ format.exponentWidth) (x : Binary format) :
    x.toRat = (withSign x.negative x.magnitude : ℚ) / (1 <<< format.unitWidth : Nat) := by
  rw [toRat, exponent_eq wide, zpow_sub₀ two_ne_zero, zpow_natCast, zpow_natCast, withSign_eq,
    magnitude, Nat.shiftLeft_eq, Nat.one_shiftLeft]
  push_cast
  ring

theorem isFinite_iff {x : Binary format} : x.isFinite = true ↔ x.body < format.infinityBody := by
  rw [isFinite, decide_eq_true_iff, exponentField, Nat.shiftRight_eq_div_pow,
    BinaryFormat.infinityBody, Nat.shiftLeft_eq, Nat.div_lt_iff_lt_mul (Nat.two_pow_pos _)]

/-- A significand put below an exponent that leaves no room for a second leading bit. -/
theorem magnitude_of_body {x : Binary format} {excess significand : Nat}
    (split : x.body = excess <<< format.fractionWidth + significand)
    (narrow : significand < 2 * 2 ^ format.fractionWidth)
    (normal : excess ≠ 0 → 2 ^ format.fractionWidth ≤ significand) :
    x.magnitude = significand <<< excess := by
  have pos := Nat.two_pow_pos format.fractionWidth
  simp only [magnitude, Binary.significand, shift, exponentField, fraction, split,
    Nat.shiftRight_eq_div_pow, Nat.shiftLeft_eq, Nat.one_mul]
  generalize 2 ^ format.fractionWidth = base at *
  by_cases subnormal : significand < base
  · have least : excess = 0 := by
      by_contra some
      exact absurd (normal some) (by omega)
    have field : (excess * base + significand) / base = 0 := by
      rw [least, Nat.zero_mul, Nat.zero_add, Nat.div_eq_of_lt subnormal]
    have rest : (excess * base + significand) % base = significand := by
      rw [least, Nat.zero_mul, Nat.zero_add, Nat.mod_eq_of_lt subnormal]
    rw [field, rest, if_pos rfl, least]
  · obtain ⟨low, rfl⟩ := Nat.exists_eq_add_of_le (Nat.le_of_not_lt subnormal)
    have carried : excess * base + (base + low) = base * (excess + 1) + low := by ring
    have field : (base * (excess + 1) + low) / base = excess + 1 := by
      rw [Nat.mul_add_div pos, Nat.div_eq_of_lt (by omega), Nat.add_zero]
    have rest : (base * (excess + 1) + low) % base = low := by
      rw [Nat.mul_add_mod, Nat.mod_eq_of_lt (by omega)]
    rw [carried, field, rest, if_neg (Nat.succ_ne_zero excess), Nat.add_sub_cancel]

/-- The leading bits of a number, as many as a significand has. -/
theorem significand_bounds {width units significand : Nat}
    (split : units = 2 ^ (units.log2 - width) * significand) :
    significand < 2 * 2 ^ width ∧ (units.log2 - width ≠ 0 → 2 ^ width ≤ significand) := by
  obtain ⟨excess, counted⟩ : ∃ excess, excess = units.log2 - width := ⟨_, rfl⟩
  rw [← counted] at split ⊢
  constructor
  · have below : units < 2 ^ (units.log2 + 1) := Nat.lt_log2_self
    have within : 2 ^ (units.log2 + 1) ≤ 2 ^ excess * (2 * 2 ^ width) := by
      rw [← Nat.pow_succ', ← Nat.pow_add]
      exact Nat.pow_le_pow_right Nat.two_pos (by omega)
    exact Nat.lt_of_mul_lt_mul_left (split ▸ Nat.lt_of_lt_of_le below within)
  · intro more
    have nonzero : units ≠ 0 := by
      rintro rfl
      rw [Nat.log2_zero] at counted
      omega
    have leading := Nat.log2_self_le nonzero
    rw [show units.log2 = excess + width by omega, Nat.pow_add] at leading
    exact Nat.le_of_mul_le_mul_left (split ▸ leading) (Nat.two_pow_pos excess)

/-- A number of units that the significand can hold is not rounded. -/
theorem nearestBody_of_exact {num den units significand : Nat} (pos : 0 < den)
    (exact : num <<< format.unitWidth = units * den)
    (split : units = 2 ^ (units.log2 - format.fractionWidth) * significand)
    (inRange : units.log2 - format.fractionWidth + 2 ≤ format.topExponent) :
    nearestBody format num den =
        (units.log2 - format.fractionWidth) <<< format.fractionWidth + significand ∧
      nearestBody format num den < format.infinityBody := by
  obtain ⟨narrow, _⟩ := significand_bounds split
  have quotient : units * den / den = units := Nat.mul_div_cancel units pos
  obtain ⟨excess, counted⟩ : ∃ excess, excess = units.log2 - format.fractionWidth := ⟨_, rfl⟩
  have rounded : roundDiv (units * den) (den <<< excess) = significand := by
    rw [← counted] at split
    have product : units * den = significand * den <<< excess := by
      rw [split, Nat.shiftLeft_eq]
      ring
    rw [product, roundDiv_mul_self]
    rw [Nat.shiftLeft_eq]
    exact Nat.mul_pos pos (Nat.two_pow_pos excess)
  have below : excess <<< format.fractionWidth + significand < format.infinityBody := by
    rw [← counted] at inRange
    have room := Nat.mul_le_mul_right (2 ^ format.fractionWidth) inRange
    rw [Nat.add_mul] at room
    rw [BinaryFormat.infinityBody, Nat.shiftLeft_eq, Nat.shiftLeft_eq]
    omega
  have body : nearestBody format num den = excess <<< format.fractionWidth + significand := by
    simp only [nearestBody, exact, quotient, ← counted, rounded]
    exact Nat.min_eq_left below.le
  rw [← counted, body]
  exact ⟨rfl, below⟩

theorem ofRatio_of_exact (negative : Bool) {num den units : Nat} (pos : 0 < den)
    (exact : num <<< format.unitWidth = units * den)
    (short : 2 ^ (units.log2 - format.fractionWidth) ∣ units)
    (inRange : units.log2 - format.fractionWidth + 2 ≤ format.topExponent) :
    (ofRatio format negative num den).isFinite = true ∧
      (ofRatio format negative num den).magnitude = units := by
  obtain ⟨significand, split⟩ := short
  obtain ⟨narrow, normal⟩ := significand_bounds split
  obtain ⟨body, below⟩ := nearestBody_of_exact pos exact split inRange
  refine ⟨isFinite_iff.2 below, ?_⟩
  rw [magnitude_of_body body narrow normal, Nat.shiftLeft_eq, Nat.mul_comm]
  exact split.symm

theorem significand_lt (x : Binary format) : x.significand < 2 * 2 ^ format.fractionWidth := by
  have low : x.fraction < 2 ^ format.fractionWidth := by
    rw [fraction, Nat.one_shiftLeft]
    exact Nat.mod_lt _ (Nat.two_pow_pos _)
  rw [significand, Nat.one_shiftLeft]
  split <;> omega

/-- Widening a finite datum keeps its sign and its number, in smaller units. -/
theorem convert_wider {target : BinaryFormat} {gap : Nat}
    (deeper : target.unitWidth = gap + format.unitWidth)
    (finer : format.fractionWidth ≤ target.fractionWidth)
    (room : gap + format.topExponent < target.topExponent) {x : Binary format}
    (finite : x.isFinite = true) :
    (x.convert target).isFinite = true ∧ (x.convert target).negative = x.negative ∧
      (x.convert target).magnitude = x.magnitude <<< gap := by
  have number : x.isNan = false := by rw [isNan, finite]; rfl
  have shifted : x.shift < format.topExponent := by
    have field : x.exponentField < format.topExponent := of_decide_eq_true finite
    rw [shift]
    omega
  have units : x.magnitude <<< gap = 2 ^ (x.shift + gap) * x.significand := by
    rw [magnitude, ← Nat.shiftLeft_add, Nat.shiftLeft_eq, Nat.mul_comm]
  have excess : (x.magnitude <<< gap).log2 - target.fractionWidth ≤ x.shift + gap := by
    by_cases zero : x.magnitude <<< gap = 0
    · rw [zero, Nat.log2_zero]
      omega
    · have digits : (x.magnitude <<< gap).log2 < x.shift + gap + (format.fractionWidth + 1) := by
        rw [Nat.log2_lt zero, units, Nat.pow_add 2 (x.shift + gap), Nat.pow_succ']
        exact Nat.mul_lt_mul_of_pos_left x.significand_lt (Nat.two_pow_pos _)
      omega
  have scaled : x.magnitude <<< target.unitWidth = x.magnitude <<< gap * 1 <<< format.unitWidth := by
    rw [deeper, Nat.shiftLeft_add, Nat.shiftLeft_eq _ format.unitWidth, Nat.one_shiftLeft]
  have short : 2 ^ ((x.magnitude <<< gap).log2 - target.fractionWidth) ∣ x.magnitude <<< gap := by
    refine (Nat.pow_dvd_pow 2 excess).trans ?_
    rw [units]
    exact Nat.dvd_mul_right _ _
  obtain ⟨isFinite, magnitude⟩ := ofRatio_of_exact x.negative
    (BinaryFormat.one_shiftLeft_pos _) scaled short (by omega)
  rw [convert, number, finite, if_neg Bool.false_ne_true, if_pos rfl]
  exact ⟨isFinite, rfl, magnitude⟩

theorem toRat_convert_wider {target : BinaryFormat} {gap : Nat} (wide : 2 ≤ format.exponentWidth)
    (wider : 2 ≤ target.exponentWidth) (deeper : target.unitWidth = gap + format.unitWidth)
    (finer : format.fractionWidth ≤ target.fractionWidth)
    (room : gap + format.topExponent < target.topExponent) {x : Binary format}
    (finite : x.isFinite = true) : (x.convert target).toRat = x.toRat := by
  obtain ⟨_, sign, magnitude⟩ := convert_wider deeper finer room finite
  rw [toRat_eq wider, toRat_eq wide, sign, magnitude, withSign_eq, withSign_eq, deeper,
    Nat.one_shiftLeft, Nat.one_shiftLeft, Nat.shiftLeft_eq, Nat.pow_add]
  push_cast
  rw [mul_comm (x.magnitude : ℚ), mul_left_comm, mul_div_mul_left _ _ (pow_ne_zero gap two_ne_zero)]

theorem not_isFinite_nan : (nan .double).isFinite = false := by decide

theorem not_isFinite_infinity (negative : Bool) : (infinity .double negative).isFinite = false := by
  cases negative <;> decide

/-- Every number of single precision is one of double precision. -/
theorem toRat?_convert_single (x : Single) : (x.convert .double).toRat? = x.toRat? := by
  cases finite : x.isFinite with
  | true =>
    have deeper : BinaryFormat.double.unitWidth = 925 + BinaryFormat.single.unitWidth := by decide
    have room : 925 + BinaryFormat.single.topExponent < BinaryFormat.double.topExponent := by decide
    obtain ⟨widened, _⟩ := convert_wider deeper (by decide) room finite
    have same := toRat_convert_wider (by decide) (by decide) deeper (by decide) room finite
    rw [toRat?, toRat?, if_pos widened, if_pos finite, same]
  | false =>
    have infinite : (x.convert .double).isFinite = false := by
      rw [convert, finite, if_neg Bool.false_ne_true]
      split
      · exact not_isFinite_nan
      · exact not_isFinite_infinity x.negative
    rw [toRat?, toRat?, infinite, finite, if_neg Bool.false_ne_true, if_neg Bool.false_ne_true]

end Binary

end RecordBinding
