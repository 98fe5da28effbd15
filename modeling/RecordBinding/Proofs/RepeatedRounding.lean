import Mathlib.Tactic.Linarith
import Mathlib.Tactic.Ring
import RecordBinding.Proofs.BinaryValue
import RecordBinding.Proofs.NearestInteger

namespace RecordBinding

theorem roundDiv_eq_iff {n d r : Nat} (pos : 0 < d) :
    roundDiv n d = r ↔ 2 * (r * d) ≤ 2 * n + d ∧ 2 * n ≤ 2 * (r * d) + d ∧
      (2 * (r * d) = 2 * n + d ∨ 2 * n = 2 * (r * d) + d → r % 2 = 0) := by
  constructor
  · rintro rfl
    have parts := Nat.div_add_mod n d
    rw [Nat.mul_comm] at parts
    unfold roundDiv
    split
    · omega
    · have next : (n / d + 1) * d = n / d * d + d := Nat.succ_mul _ _
      have small := Nat.mod_lt n pos
      omega
  · rintro ⟨below, above, tie⟩
    exact Int.ofNat_inj.1 ((isNearestEven_roundDiv pos).unique (isNearestEven_div pos below above tie))

theorem lt_roundDiv {n d c : Nat} (pos : 0 < d) (far : 2 * (c * d) + d < 2 * n) :
    c < roundDiv n d := by
  obtain ⟨_, above, _⟩ := (roundDiv_eq_iff pos).1 (Eq.refl (roundDiv n d))
  exact Nat.lt_of_mul_lt_mul_right (a := d) (by omega)

theorem roundDiv_lt {n d c : Nat} (pos : 0 < d) (far : 2 * n + d < 2 * (c * d)) :
    roundDiv n d < c := by
  obtain ⟨below, _, _⟩ := (roundDiv_eq_iff pos).1 (Eq.refl (roundDiv n d))
  exact Nat.lt_of_mul_lt_mul_right (a := d) (by omega)

theorem le_roundDiv_of_mul_le {low n d : Nat} (pos : 0 < d) (above : low * d ≤ n) :
    low ≤ roundDiv n d :=
  ((Nat.le_div_iff_mul_le pos).2 above).trans (le_roundDiv n d)

theorem roundDiv_le_of_le_mul {high n d : Nat} (pos : 0 < d) (below : n ≤ high * d) :
    roundDiv n d ≤ high := by
  have next : (high + 1) * d = high * d + d := Nat.succ_mul _ _
  have bounded : roundDiv n d < high + 1 := roundDiv_lt pos (by omega)
  omega

/-- Only the quotient is rounded, whatever fraction it is written as. -/
theorem roundDiv_congr {n d n' d' : Nat} (pos : 0 < d) (pos' : 0 < d') (same : n * d' = n' * d) :
    roundDiv n d = roundDiv n' d' := by
  have quotient : (n : ℚ) / d = (n' : ℚ) / d' := by
    rw [div_eq_div_iff (Nat.cast_ne_zero.2 pos.ne') (Nat.cast_ne_zero.2 pos'.ne')]
    exact_mod_cast same
  have rounds := isNearestEven_roundDiv (n := n) pos
  rw [quotient] at rounds
  exact Int.ofNat_inj.1 (rounds.unique (isNearestEven_roundDiv pos'))

theorem roundDiv_mul_mul {c d : Nat} (pos : 0 < d) (factor : 0 < c) (n : Nat) :
    roundDiv (n * c) (d * c) = roundDiv n d :=
  roundDiv_congr (Nat.mul_pos pos factor) pos (by ring)

/-- Between the middles of two steps there is one end to round to. -/
theorem roundDiv_between {h n r : Nat} (below : 2 * r * h < n + h)
    (above : n < (2 * r + 1) * h) : roundDiv n (2 * h) = r := by
  have pos : 0 < h := by
    by_contra zero
    simp only [Nat.eq_zero_of_not_pos zero, Nat.mul_zero, Nat.not_lt_zero] at above
  have twice : r * (2 * h) = 2 * r * h := by ring
  rw [Nat.succ_mul] at above
  rw [roundDiv_eq_iff (by omega), twice]
  omega

/-- At the middle of a step the even end is taken. -/
theorem roundDiv_middle {h : Nat} (pos : 0 < h) (j : Nat) :
    roundDiv ((2 * j + 1) * h) (2 * h) = if j % 2 = 0 then j else j + 1 := by
  have middle : (2 * j + 1) * h = 2 * (j * h) + h := by ring
  rw [roundDiv_eq_iff (by omega), middle]
  split
  · have twice : j * (2 * h) = 2 * (j * h) := by ring
    omega
  · have twice : (j + 1) * (2 * h) = 2 * (j * h) + 2 * h := by ring
    omega

/-- The middle of the step of `2 * half` that a number lies in. -/
def middleOfStep (half m : Nat) : Nat := (2 * (m / (2 * half)) + 1) * half

/-- The number lies so near to the middle of its step that a finer grid has the middle itself in
its place, and of the ends of the step the even one is not the nearer one. A step of the finer
grid goes `half` times into half a step. -/
def CrossesMiddle (fine half m : Nat) : Prop :=
  (2 * m ≤ 2 * middleOfStep (half * fine) m + fine ∧
    2 * middleOfStep (half * fine) m ≤ 2 * m + fine) ∧
  if m / (2 * (half * fine)) % 2 = 0 then middleOfStep (half * fine) m < m
  else m < middleOfStep (half * fine) m

instance (fine half m : Nat) : Decidable (CrossesMiddle fine half m) :=
  inferInstanceAs (Decidable (_ ∧ _))

theorem not_crossesMiddle_one (half m : Nat) : ¬CrossesMiddle 1 half m := by
  rintro ⟨near, crossed⟩
  split at crossed <;> omega

section

variable {fine half m j : Nat}

/-- As half a step is an even number of steps of the fine grid, a number halfway to its middle
goes to the middle. -/
theorem roundDiv_near_middle (pos : 0 < fine) (even : half % 2 = 0)
    (below : 2 * m ≤ 2 * ((2 * j + 1) * (half * fine)) + fine)
    (above : 2 * ((2 * j + 1) * (half * fine)) ≤ 2 * m + fine) :
    roundDiv m fine = (2 * j + 1) * half := by
  rw [roundDiv_eq_iff pos, Nat.mul_assoc]
  refine ⟨above, below, fun _ => ?_⟩
  rw [Nat.mul_mod, even, Nat.mul_zero, Nat.zero_mod]

/-- Farther from the middle than half a step of the fine grid, rounding in two steps goes to the
same end as rounding at once. -/
theorem roundDiv_roundDiv_of_far (pos : 0 < fine) (start : 2 * j * (half * fine) ≤ m)
    (finish : m < 2 * (j + 1) * (half * fine))
    (far : 2 * ((2 * j + 1) * (half * fine)) + fine < 2 * m ∨
      2 * m + fine < 2 * ((2 * j + 1) * (half * fine))) :
    roundDiv (roundDiv m fine) (2 * half) = roundDiv m (2 * (half * fine)) := by
  have lower : (2 * j + 1) * (half * fine) = 2 * j * (half * fine) + half * fine := by ring
  have upper : 2 * (j + 1) * (half * fine) = (2 * j + 1) * (half * fine) + half * fine := by ring
  have next : (2 * (j + 1) + 1) * (half * fine) =
      2 * (j + 1) * (half * fine) + half * fine := by ring
  have inSteps (c : Nat) : c * half * fine = c * (half * fine) := Nat.mul_assoc c half fine
  rcases far with above | below
  · have first : (2 * j + 1) * half < roundDiv m fine := lt_roundDiv pos (by rw [inSteps]; omega)
    have last : roundDiv m fine < 2 * (j + 1) * half + 1 := by
      refine roundDiv_lt pos ?_
      rw [Nat.add_mul, inSteps]
      omega
    rw [roundDiv_between (h := half * fine) (r := j + 1) (by omega) (by omega)]
    apply roundDiv_between <;> linarith
  · have last : roundDiv m fine < (2 * j + 1) * half := roundDiv_lt pos (by rw [inSteps]; omega)
    have first : 2 * j * half ≤ roundDiv m fine :=
      le_roundDiv_of_mul_le pos (by rwa [inSteps])
    rw [roundDiv_between (h := half * fine) (r := j) (by omega) (by omega)]
    apply roundDiv_between <;> linarith

/-- Rounding to a fine grid first and then to a coarse one differs from rounding at once only
across a middle. -/
theorem roundDiv_roundDiv_iff (pos : 0 < fine) (wide : 0 < half) (even : half % 2 = 0) :
    roundDiv (roundDiv m fine) (2 * half) = roundDiv m (2 * (half * fine)) ↔
      ¬CrossesMiddle fine half m := by
  have coarse : fine ≤ half * fine := Nat.le_mul_of_pos_left fine wide
  obtain ⟨j, inStep⟩ : ∃ j, j = m / (2 * (half * fine)) := ⟨_, rfl⟩
  have parts := Nat.div_add_mod m (2 * (half * fine))
  have small := Nat.mod_lt m (show 0 < 2 * (half * fine) by omega)
  have start : 2 * (half * fine) * j = 2 * j * (half * fine) := by ring
  have lower : (2 * j + 1) * (half * fine) = 2 * j * (half * fine) + half * fine := by ring
  have upper : 2 * (j + 1) * (half * fine) = (2 * j + 1) * (half * fine) + half * fine := by ring
  have next : (2 * (j + 1) + 1) * (half * fine) =
      2 * (j + 1) * (half * fine) + half * fine := by ring
  rw [← inStep, start] at parts
  rw [CrossesMiddle, middleOfStep, ← inStep]
  by_cases near : 2 * m ≤ 2 * ((2 * j + 1) * (half * fine)) + fine ∧
      2 * ((2 * j + 1) * (half * fine)) ≤ 2 * m + fine
  · rw [roundDiv_near_middle pos even near.1 near.2, roundDiv_middle wide, and_iff_right near]
    rcases Nat.lt_trichotomy m ((2 * j + 1) * (half * fine)) with less | same | more
    · rw [roundDiv_between (r := j) (by omega) less]
      split <;> omega
    · rw [← same, same, roundDiv_middle (by omega)]
      split <;> omega
    · rw [roundDiv_between (r := j + 1) (by omega) (by omega)]
      split <;> omega
  · exact iff_of_true (roundDiv_roundDiv_of_far (j := j) pos (by omega) (by omega) (by omega))
      fun crosses => near crosses.1

end

/-- The number has its leading bit in this place, or is the power of two after all those. -/
def InOctave (lead m : Nat) : Prop := 2 ^ lead ≤ m ∧ m ≤ 2 ^ (lead + 1)

theorem inOctave_log2 {m : Nat} (nonzero : m ≠ 0) : InOctave m.log2 m :=
  ⟨Nat.log2_self_le nonzero, Nat.lt_log2_self.le⟩

theorem InOctave.roundDiv_within {excess width m : Nat} (octave : InOctave (excess + width) m) :
    2 ^ width ≤ roundDiv m (2 ^ excess) ∧ roundDiv m (2 ^ excess) ≤ 2 * 2 ^ width := by
  have unit := Nat.two_pow_pos excess
  refine ⟨le_roundDiv_of_mul_le unit ?_, roundDiv_le_of_le_mul unit ?_⟩
  · rw [← Nat.pow_add, Nat.add_comm]
    exact octave.1
  · rw [← Nat.pow_succ', ← Nat.pow_add, Nat.add_comm]
    exact octave.2

/-- Rounding moves a number at most to the power of two at the end of its octave. -/
theorem InOctave.rounded {excess width m : Nat} (octave : InOctave (excess + width) m) :
    InOctave (excess + width) (roundDiv m (2 ^ excess) * 2 ^ excess) := by
  obtain ⟨lower, upper⟩ := octave.roundDiv_within
  rw [InOctave, Nat.pow_succ', Nat.add_comm excess, Nat.pow_add, ← Nat.mul_assoc]
  exact ⟨Nat.mul_le_mul_right _ lower, Nat.mul_le_mul_right _ upper⟩

end RecordBinding
