import Mathlib.Algebra.Order.Field.Basic
import Mathlib.Data.Nat.Cast.Order.Field
import Mathlib.Data.Rat.Cast.Order
import Mathlib.Tactic.Positivity
import Mathlib.Tactic.Ring
import RecordBinding.Proofs.BinaryValue
import RecordBinding.Proofs.NearestInteger

namespace RecordBinding

namespace Binary

variable {format : BinaryFormat}

theorem eq_of_body {x y : Binary format} (sign : x.negative = y.negative) (body : x.body = y.body) :
    x = y := by
  cases x
  cases y
  cases sign
  cases body
  rfl

theorem isFinite_eq_false_iff {x : Binary format} :
    x.isFinite = false ↔ format.infinityBody ≤ x.body := by
  rw [← Bool.not_eq_true, isFinite_iff, Nat.not_lt]

/-- The exponent field goes no further than that of infinity. -/
theorem fraction_eq_zero_iff {x : Binary format} (above : format.infinityBody ≤ x.body) :
    x.fraction = 0 ↔ x.body = format.infinityBody := by
  have pos := Nat.two_pow_pos format.fractionWidth
  have below := x.body_lt
  have parts := Nat.div_add_mod x.body (2 ^ format.fractionWidth)
  have top : 1 <<< format.exponentWidth = format.topExponent + 1 := by
    have := BinaryFormat.one_shiftLeft_pos format.exponentWidth
    rw [BinaryFormat.topExponent]
    omega
  rw [BinaryFormat.bodyWidth, Nat.one_shiftLeft, Nat.pow_add, ← Nat.one_shiftLeft, top] at below
  rw [BinaryFormat.infinityBody, Nat.shiftLeft_eq] at above ⊢
  have field : x.body / 2 ^ format.fractionWidth = format.topExponent := by
    refine Nat.le_antisymm (Nat.lt_succ_iff.1 ((Nat.div_lt_iff_lt_mul pos).2 below)) ?_
    exact (Nat.le_div_iff_mul_le pos).2 above
  rw [field, Nat.mul_comm] at parts
  rw [fraction, Nat.one_shiftLeft]
  omega

theorem isNan_eq_false_iff {x : Binary format} : x.isNan = false ↔ x.body ≤ format.infinityBody := by
  cases finite : x.isFinite with
  | true =>
    rw [isNan, finite]
    exact iff_of_true rfl (isFinite_iff.1 finite).le
  | false =>
    have above := isFinite_eq_false_iff.1 finite
    rw [isNan, finite, Bool.not_false, Bool.true_and, bne_eq_false_iff_eq,
      fraction_eq_zero_iff above]
    omega

/-- A body told by its significand, leading bit included, and by the number of bits that the
significand is shifted. Where it is shifted the leading bit is set. -/
structure Split (format : BinaryFormat) (body excess significand : Nat) : Prop where
  body_eq : body = excess <<< format.fractionWidth + significand
  narrow : significand < 2 * 2 ^ format.fractionWidth
  normal : excess ≠ 0 → 2 ^ format.fractionWidth ≤ significand

theorem exists_split (format : BinaryFormat) (body : Nat) :
    ∃ excess significand, Split format body excess significand := by
  have pos := Nat.two_pow_pos format.fractionWidth
  obtain ⟨field, counted⟩ : ∃ field, field = body / 2 ^ format.fractionWidth := ⟨_, rfl⟩
  have parts := Nat.div_add_mod body (2 ^ format.fractionWidth)
  have small := Nat.mod_lt body pos
  rw [← counted, Nat.mul_comm] at parts
  cases field with
  | zero => exact ⟨0, body, by simp, by omega, fun shifted => absurd rfl shifted⟩
  | succ excess =>
    rw [Nat.succ_mul] at parts
    refine ⟨excess, 2 ^ format.fractionWidth + body % 2 ^ format.fractionWidth, ?_, by omega,
      fun _ => Nat.le_add_right _ _⟩
    rw [Nat.shiftLeft_eq]
    omega

theorem Split.magnitude_eq {x : Binary format} {excess significand : Nat}
    (split : Split format x.body excess significand) : x.magnitude = significand <<< excess :=
  magnitude_of_body split.body_eq split.narrow split.normal

/-- A significand that rounding has carried beyond its width is the least one of the next
exponent. -/
theorem Split.of_carried {excess significand : Nat}
    (narrow : significand ≤ 2 * 2 ^ format.fractionWidth)
    (normal : excess ≠ 0 → 2 ^ format.fractionWidth ≤ significand) :
    ∃ e s, Split format (excess <<< format.fractionWidth + significand) e s ∧
      s <<< e = significand <<< excess := by
  by_cases carried : significand = 2 * 2 ^ format.fractionWidth
  · refine ⟨excess + 1, 2 ^ format.fractionWidth, ⟨?_, ?_, fun _ => le_rfl⟩, ?_⟩
    · rw [carried, Nat.shiftLeft_eq, Nat.shiftLeft_eq]
      ring
    · have := Nat.two_pow_pos format.fractionWidth
      omega
    · rw [carried, Nat.shiftLeft_eq, Nat.shiftLeft_eq]
      ring
  · exact ⟨excess, significand, ⟨rfl, by omega, normal⟩, rfl⟩

theorem Split.lt {b₁ b₂ e₁ e₂ s₁ s₂ : Nat} (first : Split format b₁ e₁ s₁)
    (second : Split format b₂ e₂ s₂) (ordered : b₁ < b₂) : s₁ <<< e₁ < s₂ <<< e₂ := by
  have left := first.body_eq
  have right := second.body_eq
  have narrow := first.narrow
  have narrow₂ := second.narrow
  simp only [Nat.shiftLeft_eq] at left right ⊢
  rcases Nat.lt_trichotomy e₁ e₂ with less | same | more
  · calc s₁ * 2 ^ e₁ < 2 * 2 ^ format.fractionWidth * 2 ^ e₁ :=
          Nat.mul_lt_mul_of_pos_right narrow (Nat.two_pow_pos e₁)
      _ = 2 ^ format.fractionWidth * 2 ^ (e₁ + 1) := by ring
      _ ≤ s₂ * 2 ^ e₂ :=
          Nat.mul_le_mul (second.normal (by omega)) (Nat.pow_le_pow_right Nat.two_pos less)
  · rw [same] at left ⊢
    exact Nat.mul_lt_mul_of_pos_right (by omega) (Nat.two_pow_pos e₂)
  · have leading := first.normal (by omega)
    have room := Nat.mul_le_mul_right (2 ^ format.fractionWidth) more
    rw [Nat.succ_mul] at room
    omega

theorem magnitude_lt_of_body_lt {x y : Binary format} (ordered : x.body < y.body) :
    x.magnitude < y.magnitude := by
  obtain ⟨_, _, left⟩ := exists_split format x.body
  obtain ⟨_, _, right⟩ := exists_split format y.body
  rw [left.magnitude_eq, right.magnitude_eq]
  exact left.lt right ordered

/-- The bodies are ordered as the magnitudes are. -/
theorem magnitude_lt_iff {x y : Binary format} : x.magnitude < y.magnitude ↔ x.body < y.body := by
  refine ⟨fun less => ?_, magnitude_lt_of_body_lt⟩
  by_contra unordered
  rcases Nat.lt_or_eq_of_le (Nat.le_of_not_lt unordered) with greater | same
  · exact absurd (magnitude_lt_of_body_lt greater) (by omega)
  · have : x.magnitude = y.magnitude := by
      rw [magnitude, magnitude, Binary.significand, Binary.significand, shift, shift, fraction,
        fraction, exponentField, exponentField, same]
    omega

theorem magnitude_le_iff {x y : Binary format} : x.magnitude ≤ y.magnitude ↔ x.body ≤ y.body := by
  rw [← Nat.not_lt, magnitude_lt_iff, Nat.not_lt]

theorem magnitude_inj {x y : Binary format} : x.magnitude = y.magnitude ↔ x.body = y.body := by
  rw [Nat.le_antisymm_iff, Nat.le_antisymm_iff, magnitude_le_iff, magnitude_le_iff]

/-- A multiple of the grid that is nearest to a number is nearer to it than any number with as
short a significand, if the grid is no coarser than the leading bit of the number allows. -/
theorem nearest_of_grid {t : ℚ} {base excess n e s : Nat}
    (rounds : IsNearestEven (t / 2 ^ excess) n) (reached : excess ≠ 0 → base * 2 ^ excess ≤ t)
    (narrow : s < 2 * base) :
    |t - (n * 2 ^ excess : Nat)| ≤ |t - (s * 2 ^ e : Nat)| ∧
      (s * 2 ^ e ≠ n * 2 ^ excess →
        |t - (s * 2 ^ e : Nat)| = |t - (n * 2 ^ excess : Nat)| → Even n) := by
  have unit : (0 : ℚ) < 2 ^ excess := pow_pos two_pos excess
  have scaled (m : Nat) : |t - (m * 2 ^ excess : Nat)| = |t / 2 ^ excess - (m : ℤ)| * 2 ^ excess := by
    rw [← abs_of_pos unit, ← abs_mul, abs_of_pos unit, sub_mul, div_mul_cancel₀ _ unit.ne']
    push_cast
    rfl
  rcases Nat.lt_or_ge e excess with finer | coarser
  -- finer data end before the leading bit of the number, which is itself on the grid
  · have below : ((s * 2 ^ e : Nat) : ℚ) < base * 2 ^ excess := by
      have short : s * 2 ^ e < base * 2 ^ excess :=
        calc s * 2 ^ e < 2 * base * 2 ^ e := Nat.mul_lt_mul_of_pos_right narrow (Nat.two_pow_pos e)
          _ = base * 2 ^ (e + 1) := by ring
          _ ≤ base * 2 ^ excess := Nat.mul_le_mul_left base (Nat.pow_le_pow_right Nat.two_pos finer)
      exact_mod_cast short
    have leading := reached (by omega)
    have near := rounds.nearest (base : ℤ)
    have closer : |t - (n * 2 ^ excess : Nat)| < |t - (s * 2 ^ e : Nat)| :=
      calc |t - (n * 2 ^ excess : Nat)| ≤ |t - (base * 2 ^ excess : Nat)| := by
            rw [scaled, scaled]
            exact mul_le_mul_of_nonneg_right near unit.le
        _ = t - base * 2 ^ excess := by
            push_cast
            exact abs_of_nonneg (sub_nonneg.2 leading)
        _ < t - (s * 2 ^ e : Nat) := by linarith
        _ ≤ |t - (s * 2 ^ e : Nat)| := le_abs_self _
    exact ⟨closer.le, fun _ equal => absurd equal closer.ne'⟩
  · obtain ⟨m, multiple⟩ : ∃ m, s * 2 ^ e = m * 2 ^ excess :=
      ⟨s * 2 ^ (e - excess), by rw [Nat.mul_assoc, ← Nat.pow_add, Nat.sub_add_cancel coarser]⟩
    rw [multiple, scaled, scaled]
    refine ⟨mul_le_mul_of_nonneg_right (rounds.nearest m) unit.le, fun other equal => ?_⟩
    have apart : (m : ℤ) ≠ n := fun same => other (by rw [Int.ofNat_inj.1 same])
    exact (Int.even_coe_nat n).1 (rounds.even m apart (mul_right_cancel₀ unit.ne' equal))

/-- The grid that a number is rounded on, which the format has room for above the leading bit,
and the multiple of it that is nearest. -/
structure Grid (format : BinaryFormat) (t : ℚ) (excess n : Nat) : Prop where
  rounds : IsNearestEven (t / 2 ^ excess) n
  reached : excess ≠ 0 → (2 ^ format.fractionWidth : Nat) * 2 ^ excess ≤ t
  narrow : n ≤ 2 * 2 ^ format.fractionWidth
  normal : excess ≠ 0 → 2 ^ format.fractionWidth ≤ n

theorem Grid.of_ratio (format : BinaryFormat) (scaled : Nat) {den excess : Nat} (pos : 0 < den)
    (counted : excess = (scaled / den).log2 - format.fractionWidth) :
    Grid format ((scaled : ℚ) / den) excess (roundDiv scaled (den <<< excess)) := by
  have quotient : scaled / (den <<< excess) = scaled / den / 2 ^ excess := by
    rw [Nat.shiftLeft_eq, Nat.div_div_eq_div_mul]
  have leading (shifted : excess ≠ 0) : 2 ^ format.fractionWidth * 2 ^ excess ≤ scaled / den := by
    have nonzero : scaled / den ≠ 0 := by
      intro zero
      rw [zero, Nat.log2_zero] at counted
      omega
    rw [← Nat.pow_add, show format.fractionWidth + excess = (scaled / den).log2 by omega]
    exact Nat.log2_self_le nonzero
  constructor
  · have rounds := isNearestEven_roundDiv (n := scaled) (d := den <<< excess)
      (by rw [Nat.shiftLeft_eq]; exact Nat.mul_pos pos (Nat.two_pow_pos excess))
    rw [div_div]
    rw [Nat.shiftLeft_eq] at rounds ⊢
    push_cast at rounds
    exact rounds
  · intro shifted
    have whole : ((2 ^ format.fractionWidth * 2 ^ excess : Nat) : ℚ) ≤ (scaled / den : Nat) := by
      exact_mod_cast leading shifted
    push_cast at whole ⊢
    exact whole.trans Nat.cast_div_le
  · have below : scaled / den / 2 ^ excess < 2 * 2 ^ format.fractionWidth := by
      rw [Nat.div_lt_iff_lt_mul (Nat.two_pow_pos excess), ← Nat.pow_succ', ← Nat.pow_add]
      exact Nat.lt_of_lt_of_le Nat.lt_log2_self (Nat.pow_le_pow_right Nat.two_pos (by omega))
    have := roundDiv_le scaled (den <<< excess)
    omega
  · intro shifted
    have := (Nat.le_div_iff_mul_le (Nat.two_pow_pos excess)).2 (leading shifted)
    have := le_roundDiv scaled (den <<< excess)
    omega

/-- The datum of the format that a magnitude is rounded to, in units of the smallest subnormal.
Infinity takes part as the power of two after the greatest finite datum. -/
structure IsNearestUnits (t : ℚ) (x : Binary format) : Prop where
  number : x.isNan = false
  nearest : ∀ y : Binary format, y.isNan = false → |t - x.magnitude| ≤ |t - y.magnitude|
  even : ∀ y : Binary format, y.isNan = false → y.body ≠ x.body →
    |t - y.magnitude| = |t - x.magnitude| → Even x.body

theorem Grid.nearest {t : ℚ} {excess n : Nat} (grid : Grid format t excess n) (y : Binary format) :
    |t - (n * 2 ^ excess : Nat)| ≤ |t - y.magnitude| ∧
      (y.magnitude ≠ n * 2 ^ excess →
        |t - y.magnitude| = |t - (n * 2 ^ excess : Nat)| → Even n) := by
  obtain ⟨_, _, held⟩ := exists_split format y.body
  rw [held.magnitude_eq, Nat.shiftLeft_eq]
  exact nearest_of_grid grid.rounds grid.reached held.narrow

theorem Grid.split {t : ℚ} {excess n : Nat} (grid : Grid format t excess n) :
    ∃ e s, Split format (excess <<< format.fractionWidth + n) e s ∧ s <<< e = n * 2 ^ excess := by
  rw [← Nat.shiftLeft_eq]
  exact Split.of_carried grid.narrow grid.normal

theorem Grid.isNearestUnits {t : ℚ} {excess n : Nat} (grid : Grid format t excess n)
    (fractional : format.fractionWidth ≠ 0) {x : Binary format} (number : x.isNan = false)
    (body : x.body = excess <<< format.fractionWidth + n) : x.IsNearestUnits t := by
  have magnitude : x.magnitude = n * 2 ^ excess := by
    obtain ⟨_, _, split, carried⟩ := grid.split
    rw [← body] at split
    rw [split.magnitude_eq, carried]
  refine ⟨number, fun y _ => magnitude ▸ (grid.nearest y).1, fun y _ other equal => ?_⟩
  have even : Even n := by
    refine (grid.nearest y).2 (fun same => other ?_) (magnitude ▸ equal)
    exact magnitude_inj.1 (same.trans magnitude.symm)
  rw [body, Nat.shiftLeft_eq]
  exact ((Nat.even_pow.2 ⟨even_two, fractional⟩).mul_left excess).add even

/-- What would be rounded beyond infinity lies beyond it. -/
theorem Grid.isNearestUnits_infinity {t : ℚ} {excess n : Nat} (grid : Grid format t excess n)
    (beyond : format.infinityBody < excess <<< format.fractionWidth + n) {x : Binary format}
    (top : x.body = format.infinityBody) : x.IsNearestUnits t := by
  have less : (x.magnitude : ℚ) < (n * 2 ^ excess : Nat) := by
    obtain ⟨_, _, split, carried⟩ := grid.split
    obtain ⟨_, _, held⟩ := exists_split format x.body
    have ordered := held.lt split (top ▸ beyond)
    rw [← held.magnitude_eq, carried] at ordered
    exact_mod_cast ordered
  have passed : (x.magnitude : ℚ) ≤ t := by
    by_contra short
    have near := (grid.nearest x).1
    rw [abs_of_neg (by linarith), abs_of_neg (by linarith)] at near
    linarith
  have greatest {y : Binary format} (number : y.isNan = false) : (y.magnitude : ℚ) ≤ x.magnitude := by
    exact_mod_cast magnitude_le_iff.2 (top ▸ isNan_eq_false_iff.1 number)
  refine ⟨isNan_eq_false_iff.2 top.le, fun y number => ?_, fun y number other equal => ?_⟩
  · have := greatest number
    rw [abs_of_nonneg (by linarith), abs_of_nonneg (by linarith)]
    linarith
  · have := greatest number
    rw [abs_of_nonneg (by linarith), abs_of_nonneg (by linarith)] at equal
    have same : (y.magnitude : ℚ) = x.magnitude := by linarith
    exact absurd (magnitude_inj.1 (by exact_mod_cast same)) other

theorem isNearestUnits_ofRatio (fractional : format.fractionWidth ≠ 0) (negative : Bool) (num : Nat)
    {den : Nat} (pos : 0 < den) :
    (ofRatio format negative num den).IsNearestUnits ((num <<< format.unitWidth : Nat) / den) := by
  have grid := Grid.of_ratio format (num <<< format.unitWidth) pos rfl
  rcases Nat.lt_or_ge format.infinityBody (_ <<< format.fractionWidth + roundDiv _ _) with
    beyond | within
  · exact grid.isNearestUnits_infinity beyond (Nat.min_eq_right beyond.le)
  · have body := Nat.min_eq_left within
    exact grid.isNearestUnits fractional (isNan_eq_false_iff.2 (Nat.min_le_right _ _)) body

/-- The datum of the format that rounding to nearest yields for a rational, ties going to the
even body. Infinity takes part as the power of two after the greatest finite datum, so that it
is reached from half a unit below that power on. A zero takes the sign of the rational. -/
structure IsNearest (q : ℚ) (x : Binary format) : Prop where
  number : x.isNan = false
  sign : x.negative = decide (q < 0)
  nearest : ∀ y : Binary format, y.isNan = false → |q - x.toRat| ≤ |q - y.toRat|
  even : ∀ y : Binary format, y.isNan = false → y.body ≠ x.body →
    |q - y.toRat| = |q - x.toRat| → Even x.body

theorem abs_toRat (wide : 2 ≤ format.exponentWidth) (x : Binary format) :
    |x.toRat| = x.magnitude / 2 ^ format.unitWidth := by
  have unit : (0 : ℚ) < 2 ^ format.unitWidth := pow_pos two_pos format.unitWidth
  rw [toRat_eq wide, Nat.one_shiftLeft, abs_div, withSign_eq]
  push_cast
  rw [abs_mul, Nat.abs_cast, abs_of_pos unit]
  cases x.negative <;> simp

theorem abs_toRat_lt_iff (wide : 2 ≤ format.exponentWidth) {x y : Binary format} :
    |x.toRat| < |y.toRat| ↔ x.body < y.body := by
  rw [abs_toRat wide, abs_toRat wide, div_lt_div_iff_of_pos_right (pow_pos two_pos _), Nat.cast_lt,
    magnitude_lt_iff]

/-- A datum of the rational's own sign is as far from it as their sizes are apart. -/
theorem abs_sub_toRat (wide : 2 ≤ format.exponentWidth) {q : ℚ} {x : Binary format}
    (sign : x.negative = decide (q < 0)) : |q - x.toRat| = |(|q| - |x.toRat|)| := by
  have size := x.abs_toRat wide
  have signed := x.toRat_eq wide
  rw [Nat.one_shiftLeft, withSign_eq, sign] at signed
  push_cast at signed
  rw [mul_div_assoc] at signed
  by_cases negative : q < 0
  · rw [if_pos (decide_eq_true negative)] at signed
    rw [size, signed, abs_of_neg negative, ← abs_neg]
    congr 1
    ring
  · rw [if_neg (by simpa using negative)] at signed
    rw [size, signed, abs_of_nonneg (not_lt.1 negative), one_mul]

theorem IsNearestUnits.isNearest (wide : 2 ≤ format.exponentWidth) {q : ℚ} {x : Binary format}
    (near : x.IsNearestUnits (|q| * 2 ^ format.unitWidth)) (sign : x.negative = decide (q < 0)) :
    x.IsNearest q := by
  have unit : (0 : ℚ) < 2 ^ format.unitWidth := pow_pos two_pos format.unitWidth
  have distance (y : Binary format) : |(|q| - |y.toRat|)| * 2 ^ format.unitWidth =
      |(|q| * 2 ^ format.unitWidth - y.magnitude)| := by
    rw [y.abs_toRat wide, ← abs_of_pos unit, ← abs_mul, abs_of_pos unit, sub_mul,
      div_mul_cancel₀ _ unit.ne']
  have own : |q - x.toRat| = |(|q| - |x.toRat|)| := abs_sub_toRat wide sign
  have sizes (y : Binary format) (number : y.isNan = false) :
      |(|q| - |x.toRat|)| ≤ |(|q| - |y.toRat|)| := by
    refine le_of_mul_le_mul_right ?_ unit
    rw [distance, distance]
    exact near.nearest y number
  refine ⟨near.number, sign, fun y number => ?_, fun y number other equal => ?_⟩
  · rw [own]
    exact (sizes y number).trans (abs_abs_sub_abs_le q y.toRat)
  · have tied : |(|q| - |y.toRat|)| = |(|q| - |x.toRat|)| :=
      le_antisymm ((abs_abs_sub_abs_le q y.toRat).trans (equal.trans own).le) (sizes y number)
    refine near.even y number other ?_
    rw [← distance, ← distance, tied]

theorem isNearest_ofRatio (wide : 2 ≤ format.exponentWidth) (fractional : format.fractionWidth ≠ 0)
    {q : ℚ} {num den : Nat} (pos : 0 < den) (size : |q| = num / den) :
    (ofRatio format (decide (q < 0)) num den).IsNearest q := by
  refine IsNearestUnits.isNearest wide ?_ rfl
  have counted : |q| * 2 ^ format.unitWidth = (num <<< format.unitWidth : Nat) / den := by
    rw [size, Nat.shiftLeft_eq]
    push_cast
    ring
  rw [counted]
  exact isNearestUnits_ofRatio fractional _ num pos

theorem isNearest_ofInt (wide : 2 ≤ format.exponentWidth) (fractional : format.fractionWidth ≠ 0)
    (k : ℤ) : (ofInt format k).IsNearest k := by
  have sign : decide (k < 0) = decide ((k : ℚ) < 0) := by simp only [Int.cast_lt_zero]
  have size : |(k : ℚ)| = (k.natAbs : ℚ) / (1 : Nat) := by
    rw [Nat.cast_one, div_one, Nat.cast_natAbs, Int.cast_abs]
  rw [ofInt, sign]
  exact isNearest_ofRatio wide fractional Nat.one_pos size

/-- Between two even bodies there is an odd one, and its datum is nearer to what lies halfway. -/
theorem IsNearest.unique (wide : 2 ≤ format.exponentWidth) {q : ℚ} {x y : Binary format}
    (first : x.IsNearest q) (second : y.IsNearest q) : x = y := by
  have sign : x.negative = y.negative := first.sign.trans second.sign.symm
  by_contra other
  have apart : x.body ≠ y.body := fun same => other (eq_of_body sign same)
  wlog ordered : x.body < y.body generalizing x y
  · exact this second first sign.symm (Ne.symm other) apart.symm (by omega)
  have equal : |q - y.toRat| = |q - x.toRat| :=
    le_antisymm (second.nearest x first.number) (first.nearest y second.number)
  obtain ⟨a, lower⟩ := first.even y second.number apart.symm equal
  obtain ⟨b, upper⟩ := second.even x first.number apart equal.symm
  have bounded := isNan_eq_false_iff.1 second.number
  obtain ⟨z, negative, next⟩ : ∃ z : Binary format, z.negative = x.negative ∧ z.body = x.body + 1 :=
    ⟨⟨x.negative, x.body + 1, by have := y.body_lt; omega⟩, rfl, rfl⟩
  have number : z.isNan = false := isNan_eq_false_iff.2 (by omega)
  have above : |x.toRat| < |z.toRat| := (abs_toRat_lt_iff wide).2 (by omega)
  have below : |z.toRat| < |y.toRat| := (abs_toRat_lt_iff wide).2 (by omega)
  have near := first.nearest z number
  rw [abs_sub_toRat wide first.sign, abs_sub_toRat wide second.sign] at equal
  rw [abs_sub_toRat wide first.sign, abs_sub_toRat wide (negative.trans first.sign)] at near
  rcases abs_eq_abs.1 equal with same | opposite
  · linarith
  · rw [abs_of_pos (by linarith)] at near
    exact absurd near (not_le.2 (abs_lt.2 ⟨by linarith, by linarith⟩))

end Binary

end RecordBinding
