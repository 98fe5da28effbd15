import Mathlib.Algebra.Order.Field.Basic
import Mathlib.Algebra.Order.Ring.Rat
import Mathlib.Algebra.Field.Rat
import Mathlib.Algebra.Ring.Int.Parity
import Mathlib.Data.Rat.Cast.Order
import Mathlib.Tactic.Linarith
import Mathlib.Tactic.LinearCombination
import Mathlib.Tactic.Ring
import RecordBinding.Number.Rounding

namespace RecordBinding

/-- No whole number is nearer to the rational, and if another one is as near, this is the
even one of the two. -/
structure IsNearestEven (q : ℚ) (n : ℤ) : Prop where
  nearest : ∀ m : ℤ, |q - n| ≤ |q - m|
  even : ∀ m : ℤ, m ≠ n → |q - m| = |q - n| → Even n

theorem one_le_abs_sub_of_ne {m n : ℤ} (other : m ≠ n) : (1 : ℚ) ≤ |(n : ℚ) - m| := by
  have apart : 0 < |n - m| := abs_pos.2 (sub_ne_zero.2 other.symm)
  exact_mod_cast apart

/-- What lies within half a unit is nearest, and a tie can only be at exactly half a unit. -/
theorem isNearestEven_of_half {q : ℚ} {n : ℤ} (below : 2 * (n - q) ≤ 1) (above : 2 * (q - n) ≤ 1)
    (tie : 2 * (n - q) = 1 ∨ 2 * (q - n) = 1 → Even n) : IsNearestEven q n := by
  have half : 2 * |q - n| ≤ 1 := by
    rcases abs_cases (q - n) with ⟨same, _⟩ | ⟨same, _⟩
    · linarith
    · linarith
  have split (m : ℤ) : |(n : ℚ) - m| ≤ |q - n| + |q - m| := by
    rw [abs_sub_comm q n]
    exact abs_sub_le (n : ℚ) q m
  constructor
  · intro m
    by_cases same : m = n
    · rw [same]
    · have apart := one_le_abs_sub_of_ne same
      linarith [split m]
  · intro m other equal
    have apart := one_le_abs_sub_of_ne other
    have exactly : 2 * |q - n| = 1 := by linarith [split m]
    rcases abs_cases (q - n) with ⟨same, _⟩ | ⟨same, _⟩
    · exact tie (Or.inr (by linarith))
    · exact tie (Or.inl (by linarith))

theorem IsNearestEven.half {q : ℚ} {n : ℤ} (rounds : IsNearestEven q n) :
    2 * (n - q) ≤ 1 ∧ 2 * (q - n) ≤ 1 := by
  have down := rounds.nearest (n - 1)
  have up := rounds.nearest (n + 1)
  push_cast at down up
  constructor
  · by_contra far
    have closer : |q - (n - 1)| < n - q := abs_lt.2 ⟨by linarith, by linarith⟩
    have apart : n - q ≤ |q - n| := abs_sub_comm q n ▸ le_abs_self _
    linarith
  · by_contra far
    have closer : |q - (n + 1)| < q - n := abs_lt.2 ⟨by linarith, by linarith⟩
    have apart : q - n ≤ |q - n| := le_abs_self _
    linarith

/-- Of two neighbours one is odd, so a rational halfway between them has one nearest number
as any other has. -/
theorem IsNearestEven.unique {q : ℚ} {m n : ℤ} (first : IsNearestEven q m)
    (second : IsNearestEven q n) : m = n := by
  by_contra other
  wlog ordered : m < n generalizing m n
  · exact this second first (Ne.symm other) (by omega)
  have next : n = m + 1 := by
    have gap : (n : ℚ) - m ≤ 1 := by linarith [first.half.2, second.half.1]
    have : n - m ≤ 1 := by exact_mod_cast gap
    omega
  have equal : |q - m| = |q - n| := le_antisymm (first.nearest n) (second.nearest m)
  have lower := first.even n (Ne.symm other) equal.symm
  have upper := second.even m other equal
  rw [next] at upper
  exact Int.even_add_one.1 upper lower

theorem isNearestEven_intCast (n : ℤ) : IsNearestEven n n := by
  apply isNearestEven_of_half <;> norm_num [sub_self]

theorem IsNearestEven.eq_iff {q : ℚ} {m n : ℤ} (nearest : IsNearestEven q m) :
    IsNearestEven q n ↔ n = m :=
  ⟨fun also => also.unique nearest, fun same => same ▸ nearest⟩

/-- A quotient's nearest whole number, told without fractions. -/
theorem isNearestEven_div {n d m : Nat} (pos : 0 < d) (below : 2 * (m * d) ≤ 2 * n + d)
    (above : 2 * n ≤ 2 * (m * d) + d)
    (tie : 2 * (m * d) = 2 * n + d ∨ 2 * n = 2 * (m * d) + d → m % 2 = 0) :
    IsNearestEven ((n : ℚ) / d) (m : Nat) := by
  have positive : (0 : ℚ) < d := by exact_mod_cast pos
  obtain ⟨q, quotient⟩ : ∃ q, q = (n : ℚ) / d := ⟨_, rfl⟩
  have scaled : q * d = n := by rw [quotient, div_mul_cancel₀ _ positive.ne']
  have below : 2 * ((m : ℚ) * d) ≤ 2 * (q * d) + d := by rw [scaled]; exact_mod_cast below
  have above : 2 * (q * d) ≤ 2 * ((m : ℚ) * d) + d := by rw [scaled]; exact_mod_cast above
  rw [← quotient]
  apply isNearestEven_of_half
  · rw [Int.cast_natCast]
    refine le_of_mul_le_mul_right ?_ positive
    linarith
  · rw [Int.cast_natCast]
    refine le_of_mul_le_mul_right ?_ positive
    linarith
  · rw [Int.cast_natCast]
    intro half
    refine (Int.even_coe_nat m).2 (Nat.even_iff.2 (tie ?_))
    rcases half with half | half
    · have exactly : 2 * ((m : ℚ) * d) = 2 * (q * d) + d := by linear_combination d * half
      rw [scaled] at exactly
      exact Or.inl (by exact_mod_cast exactly)
    · have exactly : 2 * (q * d) = 2 * ((m : ℚ) * d) + d := by linear_combination d * half
      rw [scaled] at exactly
      exact Or.inr (by exact_mod_cast exactly)

/-- The remainder of the division decides which neighbour is taken. -/
theorem isNearestEven_roundDiv {n d : Nat} (pos : 0 < d) :
    IsNearestEven ((n : ℚ) / d) (roundDiv n d : Nat) := by
  have parts := Nat.div_add_mod n d
  rw [Nat.mul_comm] at parts
  unfold roundDiv
  split
  · apply isNearestEven_div pos <;> omega
  · have next : (n / d + 1) * d = n / d * d + d := Nat.succ_mul _ _
    have small := Nat.mod_lt n pos
    apply isNearestEven_div pos <;> omega

theorem IsNearestEven.neg {q : ℚ} {n : ℤ} (rounds : IsNearestEven q n) : IsNearestEven (-q) (-n) := by
  have mirrored (m : ℤ) : |-q - m| = |q - (-m : ℤ)| := by
    rw [← abs_neg]
    push_cast
    congr 1
    ring
  constructor
  · intro m
    rw [mirrored, mirrored, neg_neg]
    exact rounds.nearest (-m)
  · intro m other equal
    rw [mirrored, mirrored, neg_neg] at equal
    exact (rounds.even (-m) (by omega) equal).neg

/-- A sign does not matter to the rounding. -/
theorem isNearestEven_withSign (negative : Bool) {n d : Nat} (pos : 0 < d) :
    IsNearestEven ((withSign negative n : ℚ) / d) (withSign negative (roundDiv n d)) := by
  cases negative with
  | false => exact isNearestEven_roundDiv pos
  | true =>
    have mirrored : ((withSign true n : ℤ) : ℚ) / d = -((n : ℚ) / d) := by
      rw [withSign, if_pos rfl, Int.cast_neg, Int.cast_natCast, neg_div]
    rw [mirrored]
    exact (isNearestEven_roundDiv pos).neg

end RecordBinding
