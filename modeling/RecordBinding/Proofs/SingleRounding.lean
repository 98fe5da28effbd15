import RecordBinding.Proofs.IntegerCarrier
import RecordBinding.Proofs.NearestDatum
import RecordBinding.Proofs.RepeatedRounding

namespace RecordBinding

namespace Binary

theorem nearestBody_congr (format : BinaryFormat) {num den num' den' : Nat} (pos : 0 < den)
    (pos' : 0 < den') (same : num * den' = num' * den) :
    nearestBody format num den = nearestBody format num' den' := by
  have scaled : num <<< format.unitWidth * den' = num' <<< format.unitWidth * den := by
    rw [Nat.shiftLeft_eq, Nat.shiftLeft_eq, Nat.mul_right_comm, same, Nat.mul_right_comm]
  have quotient : num <<< format.unitWidth / den = num' <<< format.unitWidth / den' := by
    rw [← Nat.mul_div_mul_right _ _ pos', scaled, Nat.mul_comm den den',
      Nat.mul_div_mul_right _ _ pos]
  have rounded (excess : Nat) : roundDiv (num <<< format.unitWidth) (den <<< excess) =
      roundDiv (num' <<< format.unitWidth) (den' <<< excess) := by
    have unit := Nat.two_pow_pos excess
    rw [Nat.shiftLeft_eq den, Nat.shiftLeft_eq den']
    refine roundDiv_congr (Nat.mul_pos pos unit) (Nat.mul_pos pos' unit) ?_
    rw [← Nat.mul_assoc, scaled, Nat.mul_assoc]
  simp only [nearestBody, quotient, rounded]

theorem log2_shiftLeft {m : Nat} (nonzero : m ≠ 0) (width : Nat) :
    (m <<< width).log2 = m.log2 + width := by
  have unit := Nat.two_pow_pos width
  have shifted : m <<< width ≠ 0 := by
    rw [Nat.shiftLeft_eq]
    exact (Nat.mul_pos (Nat.pos_of_ne_zero nonzero) unit).ne'
  rw [Nat.log2_eq_iff shifted, Nat.shiftLeft_eq, Nat.add_right_comm, Nat.pow_add, Nat.pow_add]
  exact ⟨Nat.mul_le_mul_right _ (Nat.log2_self_le nonzero),
    Nat.mul_lt_mul_of_pos_right Nat.lt_log2_self unit⟩

section

variable {format : BinaryFormat}

theorem nearestBody_of_log2 {excess m : Nat} (nonzero : m ≠ 0)
    (counted : m.log2 = excess + format.fractionWidth) :
    nearestBody format m 1 =
      min ((excess + format.unitWidth) <<< format.fractionWidth + roundDiv m (2 ^ excess))
        format.infinityBody := by
  have dropped : excess + format.fractionWidth + format.unitWidth - format.fractionWidth =
      excess + format.unitWidth := by omega
  simp only [nearestBody, Nat.div_one, log2_shiftLeft nonzero, counted, dropped]
  rw [Nat.shiftLeft_eq m, Nat.one_shiftLeft, Nat.pow_add,
    roundDiv_mul_mul (Nat.two_pow_pos excess) (Nat.two_pow_pos format.unitWidth)]

/-- A power of two may be counted with the numbers below it, as those may be rounded up to it. -/
theorem nearestBody_of_octave {excess m : Nat} (octave : InOctave (excess + format.fractionWidth) m) :
    nearestBody format m 1 =
      min ((excess + format.unitWidth) <<< format.fractionWidth + roundDiv m (2 ^ excess))
        format.infinityBody := by
  obtain ⟨above, below⟩ := octave
  have nonzero : m ≠ 0 := by
    have := Nat.two_pow_pos (excess + format.fractionWidth)
    omega
  rcases Nat.lt_or_eq_of_le below with inside | carried
  · exact nearestBody_of_log2 nonzero ((Nat.log2_eq_iff nonzero).2 ⟨above, inside⟩)
  · rw [show excess + format.fractionWidth + 1 = excess + 1 + format.fractionWidth by omega]
      at carried
    have counted : m.log2 = excess + 1 + format.fractionWidth := by rw [carried, Nat.log2_two_pow]
    have coarse : roundDiv m (2 ^ (excess + 1)) = 2 ^ format.fractionWidth := by
      rw [carried, Nat.pow_add, Nat.mul_comm, roundDiv_mul_self (Nat.two_pow_pos _)]
    have fine : roundDiv m (2 ^ excess) = 2 * 2 ^ format.fractionWidth := by
      rw [carried, Nat.pow_add, Nat.pow_succ, Nat.mul_assoc, Nat.mul_comm,
        roundDiv_mul_self (Nat.two_pow_pos _)]
    rw [nearestBody_of_log2 nonzero counted, coarse, fine, Nat.shiftLeft_eq, Nat.shiftLeft_eq]
    congr 1
    ring

/-- The body of a whole number that is not rounded to infinity. -/
theorem nearestBody_of_octave_inRange {excess m : Nat}
    (octave : InOctave (excess + format.fractionWidth) m)
    (inRange : excess + format.unitWidth + 2 ≤ format.topExponent) :
    nearestBody format m 1 =
      (excess + format.unitWidth) <<< format.fractionWidth + roundDiv m (2 ^ excess) := by
  have narrow := octave.roundDiv_within.2
  have room := Nat.mul_le_mul_right (2 ^ format.fractionWidth) inRange
  rw [Nat.add_mul] at room
  rw [nearestBody_of_octave octave, BinaryFormat.infinityBody, Nat.shiftLeft_eq, Nat.shiftLeft_eq]
  exact Nat.min_eq_left (by omega)

end

variable (format : BinaryFormat)

/-- From the power of two after the greatest finite datum on, every number is rounded to
infinity. -/
theorem nearestBody_of_large {excess m : Nat} (above : 2 ^ (excess + format.fractionWidth) ≤ m)
    (large : format.topExponent ≤ excess + format.unitWidth + 1) :
    nearestBody format m 1 = format.infinityBody := by
  have nonzero : m ≠ 0 := by
    have := Nat.two_pow_pos (excess + format.fractionWidth)
    omega
  have lead : excess + format.fractionWidth ≤ m.log2 := (Nat.le_log2 nonzero).2 above
  obtain ⟨e, counted⟩ : ∃ e, m.log2 = e + format.fractionWidth :=
    ⟨m.log2 - format.fractionWidth, by omega⟩
  have octave : InOctave (e + format.fractionWidth) m := counted ▸ inOctave_log2 nonzero
  have leading := octave.roundDiv_within.1
  have room := Nat.mul_le_mul_right (2 ^ format.fractionWidth)
    (show format.topExponent ≤ e + format.unitWidth + 1 by omega)
  rw [Nat.succ_mul] at room
  rw [nearestBody_of_octave octave, BinaryFormat.infinityBody, Nat.shiftLeft_eq, Nat.shiftLeft_eq]
  exact Nat.min_eq_right (by omega)

theorem nearestBody_eq_iff_of_octave {excess m n : Nat}
    (first : InOctave (excess + format.fractionWidth) m)
    (second : InOctave (excess + format.fractionWidth) n)
    (inRange : excess + format.unitWidth + 2 ≤ format.topExponent) :
    nearestBody format m 1 = nearestBody format n 1 ↔
      roundDiv m (2 ^ excess) = roundDiv n (2 ^ excess) := by
  rw [nearestBody_of_octave_inRange first inRange, nearestBody_of_octave_inRange second inRange]
  exact Nat.add_left_cancel_iff

theorem magnitude_ofInt_of_octave {k : ℤ} {excess : Nat}
    (octave : InOctave (excess + format.fractionWidth) k.natAbs)
    (inRange : excess + format.unitWidth + 2 ≤ format.topExponent) :
    (ofInt format k).magnitude =
      (roundDiv k.natAbs (2 ^ excess) * 2 ^ excess) <<< format.unitWidth := by
  have body : (ofInt format k).body = _ := nearestBody_of_octave_inRange octave inRange
  obtain ⟨leading, narrow⟩ := octave.roundDiv_within
  obtain ⟨_, _, split, carried⟩ :=
    Split.of_carried narrow fun _ : excess + format.unitWidth ≠ 0 => leading
  rw [← body] at split
  rw [split.magnitude_eq, carried, Nat.shiftLeft_eq, Nat.shiftLeft_eq, Nat.pow_add, Nat.mul_assoc]

/-- A number that is short enough for the significand is not rounded. -/
theorem magnitude_ofInt_of_short {k : ℤ} (short : k.natAbs < 2 ^ (format.fractionWidth + 1))
    (inRange : format.unitWidth + 2 ≤ format.topExponent) :
    (ofInt format k).magnitude = k.natAbs <<< format.unitWidth := by
  have dropped : (k.natAbs <<< format.unitWidth).log2 - format.fractionWidth ≤ format.unitWidth := by
    by_cases zero : k.natAbs = 0
    · rw [zero, Nat.zero_shiftLeft, Nat.log2_zero]
      omega
    · have := (Nat.log2_lt zero).2 short
      rw [log2_shiftLeft zero]
      omega
  refine (ofRatio_of_exact _ Nat.one_pos (Nat.mul_one _).symm ?_ (by omega)).2
  rw [Nat.shiftLeft_eq] at dropped ⊢
  exact Dvd.dvd.mul_left (Nat.pow_dvd_pow 2 dropped) _

theorem convert_single_eq_ofRatio {x : Double} (number : x.isNan = false) :
    x.convert .single =
      ofRatio .single x.negative x.magnitude (1 <<< BinaryFormat.double.unitWidth) := by
  rw [convert, number, if_neg Bool.false_ne_true]
  cases finite : x.isFinite with
  | true => exact if_pos rfl
  -- an infinity is a power of two that single precision has no room for either
  | false =>
    have top : x.body = BinaryFormat.double.infinityBody :=
      Nat.le_antisymm (isNan_eq_false_iff.1 number) (isFinite_eq_false_iff.1 finite)
    have same : x = infinity .double x.negative := eq_of_body rfl top
    rw [same]
    cases x.negative <;> decide +kernel

theorem body_convert_of_whole {x : Double} (number : x.isNan = false) {m : Nat}
    (whole : x.magnitude = m <<< BinaryFormat.double.unitWidth) :
    (x.convert .single).body = nearestBody .single m 1 := by
  rw [convert_single_eq_ofRatio number, ofRatio, whole]
  refine nearestBody_congr .single (BinaryFormat.one_shiftLeft_pos _) Nat.one_pos ?_
  rw [Nat.shiftLeft_eq, Nat.one_shiftLeft, Nat.mul_one]

/-- A datum other than the negative zero is negative if its number is. -/
theorem negative_eq_of_magnitude {x : Double} (nonzero : x.negative = true → x.magnitude ≠ 0) :
    x.negative = decide (x.toRat < 0) := by
  have unit : (0 : ℚ) < (1 <<< BinaryFormat.double.unitWidth : Nat) :=
    Nat.cast_pos.2 (BinaryFormat.one_shiftLeft_pos _)
  have signed := x.toRat_eq (by decide)
  rw [withSign_eq] at signed
  cases sign : x.negative with
  | true =>
    have some : (0 : ℚ) < x.magnitude := Nat.cast_pos.2 (Nat.pos_of_ne_zero (nonzero sign))
    rw [sign, if_pos rfl, neg_one_mul] at signed
    rw [signed]
    exact (decide_eq_true (div_neg_of_neg_of_pos (neg_lt_zero.2 some) unit)).symm
  | false =>
    rw [sign, if_neg Bool.false_ne_true, one_mul] at signed
    rw [signed]
    exact (decide_eq_false (not_lt.2 (div_nonneg (Nat.cast_nonneg _) unit.le))).symm

theorem isNearest_convert_single {x : Double} (number : x.isNan = false)
    (nonzero : x.negative = true → x.magnitude ≠ 0) : (x.convert .single).IsNearest x.toRat := by
  rw [convert_single_eq_ofRatio number, negative_eq_of_magnitude nonzero]
  refine isNearest_ofRatio (by decide) (by decide) (BinaryFormat.one_shiftLeft_pos _) ?_
  rw [abs_toRat (by decide), Nat.one_shiftLeft]
  push_cast
  rfl

theorem isNearest_ofInt_double (k : ℤ) : (ofInt .double k).IsNearest k :=
  isNearest_ofInt (by decide) (by decide) k

theorem isNearest_ofInt_single (k : ℤ) : (ofInt .single k).IsNearest k :=
  isNearest_ofInt (by decide) (by decide) k

theorem toRat_ofInt_of_short {k : ℤ} (short : k.natAbs < 2 ^ 53) : (ofInt .double k).toRat = k := by
  have unit : ((1 <<< BinaryFormat.double.unitWidth : Nat) : ℚ) ≠ 0 :=
    Nat.cast_ne_zero.2 (BinaryFormat.one_shiftLeft_pos _).ne'
  have sign : (ofInt .double k).negative = decide (k < 0) := rfl
  rw [toRat_eq (by decide), magnitude_ofInt_of_short .double short (by decide), sign, withSign_eq,
    div_eq_iff unit, Nat.shiftLeft_eq, Nat.one_shiftLeft, Nat.cast_mul, ← mul_assoc]
  congr 1
  by_cases negative : k < 0
  · rw [if_pos (decide_eq_true negative), Nat.cast_natAbs, abs_of_neg negative]
    push_cast
    ring
  · rw [if_neg (by simpa using negative), Nat.cast_natAbs, abs_of_nonneg (not_lt.1 negative), one_mul]

/-- A number below zero is not rounded to zero, as minus one is nearer. -/
theorem magnitude_ofInt_ne_zero {k : ℤ} (negative : k < 0) : (ofInt .double k).magnitude ≠ 0 := by
  intro zero
  have none : (ofInt .double k).toRat = 0 := by
    rw [← abs_eq_zero, abs_toRat (by decide), zero, Nat.cast_zero, zero_div]
  have near := (isNearest_ofInt_double k).nearest (ofInt .double (-1)) (isNearest_ofInt_double _).number
  have below : (k : ℚ) ≤ -1 := by
    have : k ≤ -1 := by omega
    exact_mod_cast this
  rw [none, toRat_ofInt_of_short (by decide), Int.cast_neg, Int.cast_one,
    abs_of_neg (by linarith), abs_of_nonpos (by linarith)] at near
  linarith

end Binary

/-- A whole number is lost between two data of single precision when it is rounded to double
precision first. From the power of two after the last of them on there is nothing to lose. -/
def RoundsAcross (k : ℤ) : Prop :=
  k.natAbs < 2 ^ 128 ∧ CrossesMiddle (2 ^ (k.natAbs.log2 - 52)) (2 ^ 28) k.natAbs

instance (k : ℤ) : Decidable (RoundsAcross k) := inferInstanceAs (Decidable (_ ∧ _))

/-- Double precision holds what has no more digits than its significand. -/
theorem not_roundsAcross_of_short {k : ℤ} (short : k.natAbs < 2 ^ 53) : ¬RoundsAcross k := by
  have fine : k.natAbs.log2 - 52 = 0 := by
    by_cases zero : k.natAbs = 0
    · rw [zero, Nat.log2_zero]
    · have := (Nat.log2_lt zero).2 short
      omega
  rw [RoundsAcross, fine]
  exact fun across => not_crossesMiddle_one _ _ across.2

namespace Binary

theorem body_convert_ofInt_of_octave {k : ℤ} {e : Nat} (octave : InOctave (e + 52) k.natAbs)
    (inRange : e ≤ 971) :
    ((ofInt .double k).convert .single).body =
      nearestBody .single (roundDiv k.natAbs (2 ^ e) * 2 ^ e) 1 := by
  have top : BinaryFormat.double.topExponent = 2047 := rfl
  have unit : BinaryFormat.double.unitWidth = 1074 := rfl
  exact body_convert_of_whole (isNearest_ofInt_double k).number
    (magnitude_ofInt_of_octave .double octave (by omega))

/-- What is too large for single precision stays so when it is rounded to double precision,
whether it becomes infinite there or not. -/
theorem body_convert_ofInt_of_large {k : ℤ} {e : Nat} (octave : InOctave (e + 52) k.natAbs)
    (large : 76 ≤ e) :
    ((ofInt .double k).convert .single).body = BinaryFormat.single.infinityBody := by
  rcases Nat.lt_or_ge 971 e with infinite | finite
  · have top : BinaryFormat.double.topExponent = 2047 := rfl
    have unit : BinaryFormat.double.unitWidth = 1074 := rfl
    have held : ofInt .double k = infinity .double (k < 0) :=
      eq_of_body rfl (nearestBody_of_large .double octave.1 (by omega))
    rw [held]
    cases decide (k < 0) <;> decide
  · have top : BinaryFormat.single.topExponent = 255 := rfl
    have unit : BinaryFormat.single.unitWidth = 149 := rfl
    have lead : e + 52 = e + 29 + 23 := by omega
    rw [body_convert_ofInt_of_octave octave finite]
    exact nearestBody_of_large .single (lead ▸ octave.rounded.1) (by omega)

theorem body_convert_ofInt_iff (k : ℤ) :
    ((ofInt .double k).convert .single).body = (ofInt .single k).body ↔ ¬RoundsAcross k := by
  have direct : (ofInt .single k).body = nearestBody .single k.natAbs 1 := rfl
  have top : BinaryFormat.single.topExponent = 255 := rfl
  have unit : BinaryFormat.single.unitWidth = 149 := rfl
  rcases Nat.lt_or_ge k.natAbs (2 ^ 53) with short | long
  · have whole := magnitude_ofInt_of_short .double short (by decide)
    rw [body_convert_of_whole (isNearest_ofInt_double k).number whole]
    exact iff_of_true rfl (not_roundsAcross_of_short short)
  have nonzero : k.natAbs ≠ 0 := by
    have := Nat.two_pow_pos 53
    omega
  obtain ⟨e, counted⟩ : ∃ e, k.natAbs.log2 = e + 52 := by
    have := (Nat.le_log2 nonzero).2 long
    exact ⟨k.natAbs.log2 - 52, by omega⟩
  have octave : InOctave (e + 52) k.natAbs := counted ▸ inOctave_log2 nonzero
  -- single precision has 29 digits less, so its steps are that much longer
  have lead : e + 52 = e + 29 + 23 := by omega
  rw [RoundsAcross, ← Nat.log2_lt nonzero, counted, Nat.add_sub_cancel]
  rcases Nat.lt_or_ge e 76 with inRange | large
  · have coarse : 2 ^ (e + 29) = 2 * (2 ^ 28 * 2 ^ e) := by ring
    have twice : roundDiv (roundDiv k.natAbs (2 ^ e) * 2 ^ e) (2 ^ (e + 29)) =
        roundDiv (roundDiv k.natAbs (2 ^ e)) (2 * 2 ^ 28) := by
      rw [Nat.add_comm e, Nat.pow_add, roundDiv_mul_mul (Nat.two_pow_pos 29) (Nat.two_pow_pos e)]
      rfl
    rw [body_convert_ofInt_of_octave octave (by omega), direct,
      nearestBody_eq_iff_of_octave .single (lead ▸ octave.rounded) (lead ▸ octave) (by omega),
      twice, coarse, roundDiv_roundDiv_iff (Nat.two_pow_pos e) (Nat.two_pow_pos 28) (by decide),
      and_iff_right (by omega)]
  · rw [body_convert_ofInt_of_large octave large, direct,
      nearestBody_of_large .single (lead ▸ octave.1) (by omega)]
    exact iff_of_true rfl fun across => absurd across.1 (by omega)

theorem isNearest_convert_ofInt_iff (k : ℤ) :
    ((ofInt .double k).convert .single).IsNearest k ↔ ¬RoundsAcross k := by
  rw [← body_convert_ofInt_iff]
  have sign : ((ofInt .double k).convert .single).negative = (ofInt .single k).negative := by
    rw [convert_single_eq_ofRatio (isNearest_ofInt_double k).number]
    rfl
  constructor
  · intro near
    rw [near.unique (by decide) (isNearest_ofInt_single k)]
  · intro body
    rw [eq_of_body sign body]
    exact isNearest_ofInt_single k

end Binary

namespace LeafType

/-- A whole number reaches single precision by way of double precision, and each of the two
steps goes to the nearest datum. The outcome is the datum nearest to the number itself unless
the first step lands on the middle between two data of single precision and the second one
leaves it on the other side. -/
theorem tryFrom_single_rounds_twice {v : Value} {k : ℤ} (carries : v.Carries k) :
    ∃ x : Single, single.tryFrom v = .ok x ∧
      (∃ d : Double, double.tryFrom v = .ok d ∧ d.IsNearest k ∧ x.IsNearest d.toRat) ∧
      (x.IsNearest k ↔ ¬RoundsAcross k) ∧
      (k.natAbs < 2 ^ 53 → x.IsNearest k) := by
  have converted : single.tryFrom v = .ok ((Binary.ofInt .double k).convert .single) :=
    (tryFrom_eq_ok_iff_of_carries rfl carries).2 rfl
  have widened : double.tryFrom v = .ok (Binary.ofInt .double k) :=
    (tryFrom_eq_ok_iff_of_carries rfl carries).2 rfl
  have nonzero : (Binary.ofInt .double k).negative = true → (Binary.ofInt .double k).magnitude ≠ 0 :=
    fun negative => Binary.magnitude_ofInt_ne_zero (of_decide_eq_true negative)
  have first := Binary.isNearest_ofInt_double k
  have agrees := Binary.isNearest_convert_ofInt_iff k
  refine ⟨_, converted, ⟨_, widened, first, ?_⟩, agrees, fun short => ?_⟩
  · exact Binary.isNearest_convert_single first.number nonzero
  · exact agrees.2 (not_roundsAcross_of_short short)

/-- A colour of no name whose number has one digit more than single precision holds, and lies
in the middle between two data. -/
def middleTag : Value := .enum ⟨"Color", 16777217⟩

theorem middleTag_rounded :
    middleTag.Carries 16777217 ∧
      single.tryFrom middleTag = .ok (.ofBits .single 0x4B800000) ∧
      (Binary.ofBits .single 0x4B800000).IsNearest (16777217 : ℤ) := by
  have carries : middleTag.Carries 16777217 := .enum ⟨"Color", 16777217⟩
  obtain ⟨x, converted, _, _, near⟩ := tryFrom_single_rounds_twice carries
  have rounded : (Binary.ofInt .double 16777217).convert .single = .ofBits .single 0x4B800000 := by
    decide +kernel
  have read : single.tryFrom middleTag = .ok (.ofBits .single 0x4B800000) := congrArg Except.ok rounded
  have same : x = .ofBits .single 0x4B800000 := Except.ok.inj (converted.symm.trans read)
  exact ⟨carries, read, same ▸ near (by decide)⟩

/-- A number just above the middle between two data of single precision, too near to it for
double precision to tell. -/
def pastMiddle : ℤ := 2 ^ 60 + 2 ^ 36 + 1

/-- The datum below the middle is taken, which is the farther one. -/
theorem pastMiddle_misrounded :
    (Value.int .i64 ⟨pastMiddle, by decide⟩).Carries pastMiddle ∧ RoundsAcross pastMiddle ∧
      single.tryFrom (.int .i64 ⟨pastMiddle, by decide⟩) = .ok (.ofBits .single 0x5D800000) ∧
      ¬(Binary.ofBits .single 0x5D800000).IsNearest pastMiddle ∧
      (Binary.ofBits .single 0x5D800001).IsNearest pastMiddle := by
  have twice : (Binary.ofInt .double pastMiddle).convert .single = .ofBits .single 0x5D800000 := by
    decide +kernel
  have once : Binary.ofInt .single pastMiddle = .ofBits .single 0x5D800001 := by decide +kernel
  have nearest : (Binary.ofBits .single 0x5D800001).IsNearest pastMiddle :=
    once ▸ Binary.isNearest_ofInt_single pastMiddle
  refine ⟨.int ⟨pastMiddle, by decide⟩, by decide, congrArg Except.ok twice, fun near => ?_, nearest⟩
  exact absurd (near.unique (by decide) nearest) (by decide)

end LeafType

end RecordBinding
