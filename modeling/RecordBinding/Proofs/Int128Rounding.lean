import RecordBinding.Proofs.IntegerConversion
import RecordBinding.Proofs.NearestDatum
import RecordBinding.Proofs.RepeatedRounding

namespace RecordBinding

namespace Binary

section

variable {format : BinaryFormat} {x : Binary format}

theorem dvd_magnitude_of_large {width : Nat}
    (large : 2 * 2 ^ format.fractionWidth * 2 ^ width ≤ x.magnitude) : 2 ^ width ∣ x.magnitude := by
  obtain ⟨excess, significand, split⟩ := exists_split format x.body
  have narrow := split.narrow
  rw [split.magnitude_eq, Nat.shiftLeft_eq] at large ⊢
  by_cases whole : width ≤ excess
  · exact Dvd.dvd.mul_left (Nat.pow_dvd_pow 2 whole) significand
  · have less : significand * 2 ^ excess < 2 * 2 ^ format.fractionWidth * 2 ^ excess :=
      Nat.mul_lt_mul_of_pos_right narrow (Nat.two_pow_pos excess)
    have more : 2 * 2 ^ format.fractionWidth * 2 ^ excess ≤
        2 * 2 ^ format.fractionWidth * 2 ^ width :=
      Nat.mul_le_mul_left _ (Nat.pow_le_pow_right Nat.two_pos (Nat.le_of_not_le whole))
    omega

/-- A datum that is rounded to more than a significand holds was whole before. -/
theorem magnitude_of_nearestInt {k : Nat} (rounded : x.nearestInt = k)
    (large : 2 * 2 ^ format.fractionWidth < k) :
    x.negative = false ∧ x.magnitude = k * 2 ^ format.unitWidth := by
  have unit := Nat.two_pow_pos format.unitWidth
  rw [nearestInt, Nat.one_shiftLeft] at rounded
  cases sign : x.negative with
  | true =>
    rw [sign, withSign, if_pos rfl] at rounded
    omega
  | false =>
    rw [sign, withSign, if_neg Bool.false_ne_true, Int.natCast_inj] at rounded
    refine ⟨rfl, ?_⟩
    obtain ⟨close, _⟩ := (roundDiv_eq_iff unit).1 rounded
    have room := Nat.mul_le_mul_right (2 ^ format.unitWidth) large
    rw [Nat.succ_mul] at room
    obtain ⟨c, whole⟩ : 2 ^ format.unitWidth ∣ x.magnitude := dvd_magnitude_of_large (by omega)
    rw [whole, Nat.mul_comm, roundDiv_mul_self unit] at rounded
    rw [whole, Nat.mul_comm, rounded]

end

/-- Two to the power of 127 in double precision, the number after the greatest one of 128 bits. -/
def pastInt128 : Double := .ofBits .double 0x47E0000000000000

theorem magnitude_pastInt128 :
    pastInt128.magnitude = 2 ^ 127 * 2 ^ BinaryFormat.double.unitWidth := by
  decide +kernel

theorem toRat?_pastInt128 : pastInt128.toRat? = some (2 ^ 127) := by
  have unit : (2 : ℚ) ^ BinaryFormat.double.unitWidth ≠ 0 := pow_ne_zero _ two_ne_zero
  have sign : pastInt128.negative = false := by decide
  refine toRat?_eq_some_iff.2 ⟨by decide, ?_⟩
  rw [toRat_eq (by decide), magnitude_pastInt128, sign, withSign, if_neg Bool.false_ne_true,
    Nat.one_shiftLeft, Int.cast_natCast, Nat.cast_mul, Nat.cast_pow, Nat.cast_pow, Nat.cast_two,
    mul_div_cancel_right₀ _ unit]

theorem isNearestEven_pastInt128 : IsNearestEven (2 ^ 127) (int128Max + 1) := by
  have past : (2 ^ 127 : ℚ) = ((int128Max + 1 : ℤ) : ℚ) := by
    rw [show int128Max + 1 = 2 ^ 127 by decide, Int.cast_pow, Int.cast_ofNat]
  rw [past]
  exact isNearestEven_intCast _

theorem toInt128?_pastInt128 : pastInt128.toInt128? = some int128Max :=
  (toInt128?_eq_some_iff (by decide)).2
    ⟨_, _, toRat?_pastInt128, isNearestEven_pastInt128, by decide, le_rfl, by decide⟩

theorem eq_pastInt128 {x : Double} (rounded : x.nearestInt = int128Max + 1) : x = pastInt128 := by
  have past : int128Max + 1 = (2 ^ 127 : Nat) := by decide
  obtain ⟨sign, magnitude⟩ := magnitude_of_nearestInt (rounded.trans past) (by decide)
  refine eq_of_body (sign.trans (by decide)) (magnitude_inj.1 ?_)
  rw [magnitude, magnitude_pastInt128]

/-- Rounding to 128 bits answers with the nearest whole number, ties going to the even one, just
where this is in the range, for all data but one. The power of two after the greatest number
passes for this number itself. -/
theorem toInt128?_exact_iff (x : Double) :
    ((∀ n, x.toInt128? = some n ↔
        ∃ q, x.toRat? = some q ∧ IsNearestEven q n ∧ int128Min ≤ n ∧ n ≤ int128Max) ↔
      x ≠ pastInt128) ∧
    pastInt128.toRat? = some (2 ^ 127) ∧ pastInt128.toInt128? = some int128Max := by
  refine ⟨⟨?_, fun other n => ?_⟩, toRat?_pastInt128, toInt128?_pastInt128⟩
  · rintro exact rfl
    obtain ⟨q, held, nearest, _⟩ := (exact int128Max).1 toInt128?_pastInt128
    obtain rfl := Option.some.inj (held.symm.trans toRat?_pastInt128)
    exact absurd (nearest.unique isNearestEven_pastInt128) (by decide)
  · have inside : x.nearestInt ≠ int128Max + 1 := fun rounded => other (eq_pastInt128 rounded)
    have rounds := x.isNearestEven_nearestInt (by decide)
    rw [toInt128?_eq_some_iff (by decide)]
    constructor
    · rintro ⟨q, m, held, nearest, atLeast, atMost, rfl⟩
      obtain ⟨_, rfl⟩ := toRat?_eq_some_iff.1 held
      have same := rounds.eq_iff.1 nearest
      have unclamped : min m int128Max = m := by omega
      rw [unclamped]
      exact ⟨_, held, nearest, atLeast, by omega⟩
    · rintro ⟨q, held, nearest, atLeast, atMost⟩
      exact ⟨q, n, held, nearest, atLeast, by omega, by omega⟩

/-- An answer that is not the nearest whole number, for a number whose nearest whole number is
out of the range. -/
theorem pastInt128_misread :
    pastInt128.toInt128? = some int128Max ∧
      ∀ q, pastInt128.toRat? = some q → ∀ n, IsNearestEven q n → int128Max < n := by
  refine ⟨toInt128?_pastInt128, fun q held n nearest => ?_⟩
  obtain rfl := Option.some.inj (held.symm.trans toRat?_pastInt128)
  rw [nearest.unique isNearestEven_pastInt128]
  exact Int.lt_succ _

end Binary

end RecordBinding
