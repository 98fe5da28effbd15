import RecordBinding.Proofs.IntegerConversion
import RecordBinding.Sample.Enums

namespace RecordBinding

namespace Value

/-- The value holds a whole number as such: in any of the integer variants, or as the ordinal
of an enumerated value of any name. -/
inductive Carries : Value → ℤ → Prop
  | int {kind : IntKind} (n : kind.Number) : Carries (.int kind n) n.val
  | enum (tag : EnumTag) : Carries (.enum tag) tag.ordinal

theorem charOfInt?_eq_some_iff {k : ℤ} {c : Char} : charOfInt? k = some c ↔ k = c.toNat := by
  constructor
  · intro read
    have valid : 0 ≤ k ∧ k.toNat.isValidChar := by
      by_contra invalid
      cases (dif_neg invalid).symm.trans read
    have same : Char.ofNatAux k.toNat valid.2 = c := Option.some.inj ((dif_pos valid).symm.trans read)
    have point : c.toNat = k.toNat := same ▸ rfl
    omega
  · rintro rfl
    have valid : c.toNat.isValidChar := c.valid
    have same : Char.ofNatAux c.toNat valid = c := (dif_pos valid).symm.trans (Char.ofNat_toNat c)
    exact (dif_pos ⟨Int.natCast_nonneg _, valid⟩).trans (congrArg some same)

theorem charOfInt?_isSome_iff {k : ℤ} :
    (∃ c, charOfInt? k = some c) ↔ (0 ≤ k ∧ k ≤ 0xD7FF) ∨ (0xE000 ≤ k ∧ k ≤ 0x10FFFF) := by
  constructor
  · rintro ⟨c, read⟩
    have point := charOfInt?_eq_some_iff.1 read
    have valid : c.toNat.isValidChar := c.valid
    rcases valid with low | ⟨above, below⟩
    · exact Or.inl ⟨by omega, by omega⟩
    · exact Or.inr ⟨by omega, by omega⟩
  · intro range
    have nonneg : 0 ≤ k := by omega
    have valid : k.toNat.isValidChar := by
      rcases range with ⟨_, low⟩ | ⟨above, below⟩
      · exact Or.inl (by omega)
      · exact Or.inr ⟨by omega, by omega⟩
    exact ⟨_, dif_pos ⟨nonneg, valid⟩⟩

end Value

theorem Decimal.ofInt?_eq_some_iff {k : ℤ} {d : Decimal} :
    Decimal.ofInt? k = some d ↔ d.mantissa = k ∧ d.scale = 0 := by
  unfold ofInt? ofParts?
  split
  · rw [Option.some.injEq]
    constructor
    · rintro rfl
      exact ⟨rfl, rfl⟩
    · cases d
      rintro ⟨rfl, rfl⟩
      rfl
  · rename_i unfit
    refine iff_of_false nofun ?_
    rintro ⟨rfl, _⟩
    exact unfit ⟨d.mantissa_lt, Nat.zero_le _⟩

theorem Decimal.ofInt?_isSome_iff {k : ℤ} : (∃ d, Decimal.ofInt? k = some d) ↔ k.natAbs < 2 ^ 96 := by
  constructor
  · rintro ⟨d, held⟩
    obtain ⟨rfl, _⟩ := ofInt?_eq_some_iff.1 held
    exact d.mantissa_lt
  · intro fits
    exact ⟨⟨k, 0, fits, by decide⟩, ofInt?_eq_some_iff.2 ⟨rfl, rfl⟩⟩

theorem EnumType.toOption_tryFrom (type : EnumType) (v : Value) :
    (type.tryFrom v).toOption = (v.toInt? type.repr).bind type.fromRepr? := by
  rw [tryFrom]
  cases v.toInt? type.repr with
  | none => rfl
  | some repr =>
    rw [Option.bind_some]
    dsimp only
    rw [fromRepr]
    cases type.fromRepr? repr <;> rfl

namespace LeafType

theorem toOption_orRefuse {α : Type} (t : LeafType) (v : Value) (found : Option α) :
    (t.orRefuse v found).toOption = found := by
  cases found <;> rfl

/-- What a whole number becomes in a type, whatever value it comes in. -/
def ofInteger? : (t : LeafType) → ℤ → Option t.Carrier
  | bool, k => some (k != 0)
  | int kind, k => kind.ofInt? k
  | single, k => some ((Binary.ofInt .double k).convert .single)
  | double, k => some (.ofInt .double k)
  | decimal, k => Decimal.ofInt? k
  | char, k => Value.charOfInt? k
  | enum _ type, k => (type.repr.ofInt? k).bind type.fromRepr?
  | _, _ => none

theorem toOption_tryFrom_of_carries {t : LeafType} (known : t.isOther = false) {v : Value} {k : ℤ}
    (carries : v.Carries k) : (t.tryFrom v).toOption = t.ofInteger? k := by
  have narrowed (kind : IntKind) : v.toInt? kind = kind.ofInt? k := by cases carries <;> rfl
  cases t with
  | value => cases known
  | custom type => cases known
  | enum home type =>
    refine (type.toOption_tryFrom v).trans ?_
    rw [narrowed]
    rfl
  | int kind => exact (toOption_orRefuse _ v _).trans (narrowed kind)
  | bool =>
    have read : v.toBool? = some (k != 0) := by cases carries <;> rfl
    exact (toOption_orRefuse _ v _).trans read
  | single =>
    have read : v.toSingle? = ofInteger? .single k := by cases carries <;> rfl
    exact (toOption_orRefuse _ v _).trans read
  | double =>
    have read : v.toDouble? = ofInteger? .double k := by cases carries <;> rfl
    exact (toOption_orRefuse _ v _).trans read
  | decimal =>
    have read : v.toDecimal? = Decimal.ofInt? k := by cases carries <;> rfl
    exact (toOption_orRefuse _ v _).trans read
  | char =>
    have read : v.toChar? = Value.charOfInt? k := by cases carries <;> rfl
    exact (toOption_orRefuse _ v _).trans read
  -- text, moments, spans and identifiers are not made of numbers
  | _ => cases carries <;> rfl

theorem tryFrom_eq_ok_iff_of_carries {t : LeafType} (known : t.isOther = false) {v : Value} {k : ℤ}
    (carries : v.Carries k) {x : t.Carrier} : t.tryFrom v = .ok x ↔ t.ofInteger? k = some x := by
  rw [← toOption_tryFrom_of_carries known carries]
  cases t.tryFrom v with
  | ok y => rw [Except.toOption, Except.ok.injEq, Option.some.injEq]
  | error e => exact iff_of_false nofun nofun

/-- Which of the integer variants a number comes in, or whether as an ordinal, is the same to
every type of the library. It becomes a decimal if 96 bits can hold it, is true if it is not
zero, and becomes a character if it is a Unicode scalar value. The character goes back to it. -/
theorem tryFrom_congr_of_carries {v w : Value} {k : ℤ} (left : v.Carries k) (right : w.Carries k) :
    (∀ t : LeafType, t.isOther = false → (t.tryFrom v).toOption = (t.tryFrom w).toOption) ∧
    ((∃ d, decimal.tryFrom v = .ok d) ↔ k.natAbs < 2 ^ 96) ∧
    (∀ d : Decimal, decimal.tryFrom v = .ok d → d.toRat = k) ∧
    bool.tryFrom v = .ok (k != 0) ∧
    ((∃ c, char.tryFrom v = .ok c) ↔ (0 ≤ k ∧ k ≤ 0xD7FF) ∨ (0xE000 ≤ k ∧ k ≤ 0x10FFFF)) ∧
    ∀ c, char.tryFrom v = .ok c → ∀ (kind : IntKind) (fits : kind.Fits k),
      (int kind).tryFrom (.char c) = .ok ⟨k, fits⟩ := by
  have toDecimal (d : Decimal) : decimal.tryFrom v = .ok d ↔ Decimal.ofInt? k = some d :=
    tryFrom_eq_ok_iff_of_carries rfl left
  have toChar (c : Char) : char.tryFrom v = .ok c ↔ Value.charOfInt? k = some c :=
    tryFrom_eq_ok_iff_of_carries rfl left
  refine ⟨fun t known => ?_, ?_, fun d converted => ?_, ?_, ?_, fun c converted kind fits => ?_⟩
  · rw [toOption_tryFrom_of_carries known left, toOption_tryFrom_of_carries known right]
  · exact (exists_congr toDecimal).trans Decimal.ofInt?_isSome_iff
  · obtain ⟨rfl, whole⟩ := Decimal.ofInt?_eq_some_iff.1 ((toDecimal d).1 converted)
    rw [Decimal.toRat, whole, pow_zero, div_one]
  · exact (tryFrom_eq_ok_iff_of_carries rfl left).2 rfl
  · exact (exists_congr toChar).trans Value.charOfInt?_isSome_iff
  · have point := Value.charOfInt?_eq_some_iff.1 ((toChar c).1 converted)
    exact orRefuse_eq_ok_iff.2 (IntKind.ofInt?_eq_some_iff.2 point.symm)

/-- The letter A in eight bits, and under the name of colours. -/
def letterByte : Value := .int .u8 ⟨65, by decide⟩

def letterTag : Value := .enum ⟨"Color", 65⟩

/-- Both become the same undeclared colour, and the same character. -/
theorem letter_carried_alike :
    letterByte.Carries 65 ∧ letterTag.Carries 65 ∧
      ((enum "colors" Sample.color).tryFrom letterByte).toOption =
        ((enum "colors" Sample.color).tryFrom letterTag).toOption ∧
      (∃ d, decimal.tryFrom letterByte = .ok d ∧ d.toRat = 65) ∧
      char.tryFrom letterByte = .ok 'A' ∧
      (int .i16).tryFrom (.char 'A') = .ok ⟨65, by decide⟩ := by
  have left : letterByte.Carries 65 := .int ⟨65, by decide⟩
  have right : letterTag.Carries 65 := .enum ⟨"Color", 65⟩
  obtain ⟨alike, decimals, exact, _, _, back⟩ := tryFrom_congr_of_carries left right
  have letter : char.tryFrom letterByte = .ok 'A' := rfl
  obtain ⟨d, converted⟩ := decimals.2 (by decide)
  exact ⟨left, right, alike _ rfl, ⟨d, converted, exact d converted⟩, letter,
    back 'A' letter .i16 (by decide)⟩

end LeafType

end RecordBinding
