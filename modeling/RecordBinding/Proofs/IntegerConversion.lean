import RecordBinding.Field.LeafType
import RecordBinding.Proofs.BinaryValue
import RecordBinding.Proofs.NearestInteger

namespace RecordBinding

namespace Binary

variable {format : BinaryFormat}

theorem isNearestEven_nearestInt (wide : 2 ≤ format.exponentWidth) (x : Binary format) :
    IsNearestEven x.toRat x.nearestInt := by
  rw [toRat_eq wide]
  exact isNearestEven_withSign x.negative (BinaryFormat.one_shiftLeft_pos _)

theorem toRat?_eq_some_iff {x : Binary format} {q : ℚ} :
    x.toRat? = some q ↔ x.isFinite = true ∧ x.toRat = q := by
  rw [toRat?, Option.ite_none_right_eq_some, Option.some.injEq]

/-- The range of 128 bits is tested with an upper end that lies outside of it, and what
passes is clamped. -/
theorem toInt128?_eq_some_iff (wide : 2 ≤ format.exponentWidth) {x : Binary format} {n : ℤ} :
    x.toInt128? = some n ↔ ∃ q m, x.toRat? = some q ∧ IsNearestEven q m ∧
      int128Min ≤ m ∧ m ≤ int128Max + 1 ∧ n = min m int128Max := by
  have rounds := x.isNearestEven_nearestInt wide
  have top : ((1 <<< 127 : Nat) : ℤ) = int128Max + 1 := rfl
  rw [toInt128?, top]
  constructor
  · intro read
    split at read
    · rename_i within
      obtain ⟨finite, atLeast, atMost⟩ := within
      exact ⟨_, _, if_pos finite, rounds, atLeast, atMost, (Option.some.inj read).symm⟩
    · cases read
  · rintro ⟨q, m, exact, nearest, atLeast, atMost, rfl⟩
    obtain ⟨finite, rfl⟩ := toRat?_eq_some_iff.1 exact
    obtain rfl := rounds.eq_iff.1 nearest
    exact if_pos ⟨finite, atLeast, atMost⟩

/-- No narrower type can tell that the range is tested too wide. -/
theorem toInt128?_narrowed_iff (wide : 2 ≤ format.exponentWidth) {x : Binary format}
    {kind : IntKind} {n : kind.Number} :
    x.toInt128?.bind kind.ofInt? = some n ↔ ∃ q, x.toRat? = some q ∧ IsNearestEven q n.val := by
  have lower := int128Min_le_min kind
  have upper := kind.max_lt_int128Max
  obtain ⟨atLeast, atMost⟩ := n.property
  simp only [Option.bind_eq_some_iff, toInt128?_eq_some_iff wide, IntKind.ofInt?_eq_some_iff]
  constructor
  · rintro ⟨clamped, ⟨q, m, exact, nearest, _, _, held⟩, same⟩
    have unclamped : m = n.val := by omega
    exact ⟨q, exact, unclamped ▸ nearest⟩
  · rintro ⟨q, exact, nearest⟩
    exact ⟨n.val, ⟨q, n.val, exact, nearest, by omega, by omega, by omega⟩, rfl⟩

end Binary

/-- The number that a decimal stands for. -/
def Decimal.toRat (d : Decimal) : ℚ := d.mantissa / 10 ^ d.scale

theorem Decimal.isNearestEven_nearestInt (d : Decimal) : IsNearestEven d.toRat d.nearestInt := by
  have signed : withSign (d.mantissa < 0) d.mantissa.natAbs = d.mantissa := by
    by_cases negative : d.mantissa < 0
    · rw [withSign, if_pos (decide_eq_true negative)]
      omega
    · rw [withSign, if_neg (by rwa [decide_eq_true_eq])]
      omega
  have power : (10 : ℚ) ^ d.scale = (Nat.pow 10 d.scale : Nat) := by
    rw [Nat.pow_eq]
    push_cast
    rfl
  have rounds := isNearestEven_withSign (d.mantissa < 0) (n := d.mantissa.natAbs)
    (d := Nat.pow 10 d.scale) (Nat.pow_pos (by decide))
  rw [signed, ← power] at rounds
  exact rounds

namespace Value

/-- The number that a value can be read as, as it is: a truth value is 0 or 1, a character
its code point and an enumerated value its ordinal. Data that are no numbers have none. -/
def toRat? : Value → Option ℚ
  | bool b => some (if b then 1 else 0)
  | char c => some c.toNat
  | enum tag => some tag.ordinal
  | int _ n => some n.val
  | single x => x.toRat?
  | double x => x.toRat?
  | decimal d => some d.toRat
  | _ => none

theorem toInt?_iff_of_nearest {v : Value} {k : ℤ} {q : ℚ} (read : v.toInteger? = some k)
    (exact : v.toRat? = some q) (rounds : IsNearestEven q k) {kind : IntKind} {n : kind.Number} :
    v.toInt? kind = some n ↔ ∃ q, v.toRat? = some q ∧ IsNearestEven q n.val := by
  have narrowed : v.toInt? kind = kind.ofInt? k := by rw [toInt?, read]; rfl
  rw [narrowed, IntKind.ofInt?_eq_some_iff, exact]
  constructor
  · rintro rfl
    exact ⟨q, rfl, rounds⟩
  · rintro ⟨_, same, nearest⟩
    cases same
    exact rounds.unique nearest

/-- A value narrows to the number of the type that is nearest to what it can be read as. -/
theorem toInt?_eq_some_iff {v : Value} {kind : IntKind} {n : kind.Number} :
    v.toInt? kind = some n ↔ ∃ q, v.toRat? = some q ∧ IsNearestEven q n.val := by
  cases v with
  | bool b =>
    have whole : (Value.bool b).toRat? = some ((if b then 1 else 0 : ℤ) : ℚ) := by
      cases b <;> simp [toRat?]
    exact toInt?_iff_of_nearest rfl whole (isNearestEven_intCast _)
  | char c =>
    have whole : (Value.char c).toRat? = some ((c.toNat : ℤ) : ℚ) := by
      rw [toRat?, Int.cast_natCast]
    exact toInt?_iff_of_nearest rfl whole (isNearestEven_intCast _)
  | enum tag => exact toInt?_iff_of_nearest rfl rfl (isNearestEven_intCast _)
  | int other k => exact toInt?_iff_of_nearest rfl rfl (isNearestEven_intCast _)
  | decimal d => exact toInt?_iff_of_nearest rfl rfl d.isNearestEven_nearestInt
  | single x =>
    rw [toRat?, ← x.toRat?_convert_single]
    exact Binary.toInt128?_narrowed_iff (by decide)
  | double x => exact Binary.toInt128?_narrowed_iff (by decide)
  | _ => exact iff_of_false nofun nofun

end Value

namespace LeafType

/-- A value converts to an integer type if it can be read as a number, and the number nearest
to that, with ties to even, lies in the range of the type. In every other case the value comes
back in the error as it was. -/
theorem tryFrom_int_rounds_exactly (kind : IntKind) (v : Value) :
    (∀ n : ℤ, (∃ fits : kind.Fits n, (int kind).tryFrom v = .ok ⟨n, fits⟩) ↔
      ∃ q, v.toRat? = some q ∧ IsNearestEven q n ∧ kind.Fits n) ∧
    (∀ e, (int kind).tryFrom v = .error e ↔
      (¬∃ q n, v.toRat? = some q ∧ IsNearestEven q n ∧ kind.Fits n) ∧
        e = .conversion v kind.spelling) ∧
    ∀ e, (int kind).tryFrom v = .error e → e.value? = some v := by
  have converts (n : kind.Number) : (int kind).tryFrom v = .ok n ↔
      ∃ q, v.toRat? = some q ∧ IsNearestEven q n.val :=
    orRefuse_eq_ok_iff.trans Value.toInt?_eq_some_iff
  have refuses (e : Error) : (int kind).tryFrom v = .error e ↔
      v.toInt? kind = none ∧ e = .conversion v kind.spelling :=
    orRefuse_eq_error_iff
  have unreadable : v.toInt? kind = none ↔
      ¬∃ q n, v.toRat? = some q ∧ IsNearestEven q n ∧ kind.Fits n := by
    rw [Option.eq_none_iff_forall_ne_some]
    constructor
    · rintro refused ⟨q, n, exact, nearest, fits⟩
      exact refused ⟨n, fits⟩ (Value.toInt?_eq_some_iff.2 ⟨q, exact, nearest⟩)
    · intro unread n read
      obtain ⟨q, exact, nearest⟩ := Value.toInt?_eq_some_iff.1 read
      exact unread ⟨q, n.val, exact, nearest, n.property⟩
  refine ⟨fun n => ?_, fun e => (refuses e).trans (and_congr_left' unreadable),
    fun e failed => ?_⟩
  · constructor
    · rintro ⟨fits, converted⟩
      obtain ⟨q, exact, nearest⟩ := (converts _).1 converted
      exact ⟨q, exact, nearest, fits⟩
    · rintro ⟨q, exact, nearest, fits⟩
      exact ⟨fits, (converts _).2 ⟨q, exact, nearest⟩⟩
  · obtain ⟨_, rfl⟩ := (refuses e).1 failed
    rfl

/-- A half below zero goes up to the even neighbour, and is refused where nothing is below zero. -/
example :
    (int .i8).tryFrom (.decimal ⟨-25, 1, by decide, by decide⟩) = .ok ⟨-2, by decide⟩ ∧
      (int .u8).tryFrom (.decimal ⟨-25, 1, by decide, by decide⟩) =
        .error (.conversion (.decimal ⟨-25, 1, by decide, by decide⟩) "u8") :=
  ⟨rfl, rfl⟩

end LeafType

end RecordBinding
