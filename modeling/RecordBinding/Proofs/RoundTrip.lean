import RecordBinding.Proofs.FieldCoercion
import RecordBinding.Proofs.SettingByName
import RecordBinding.Sample.Records

namespace RecordBinding

namespace TimeSpan

theorem toDuration?_ofDuration {d : Duration} (within : (d.nanos : Int) ≤ maxSpanNanos) :
    (ofDuration d).toDuration? = some d := by
  rw [ofDuration, dif_pos within]
  exact dif_neg (Int.not_lt.2 (Int.natCast_nonneg d.nanos))

theorem ofDuration_of_toDuration? {t : TimeSpan} {d : Duration} (lasts : t.toDuration? = some d) :
    ofDuration d = t := by
  unfold toDuration? at lasts
  split at lasts
  · cases lasts
  · rename_i nonnegative
    cases lasts
    have same : (t.nanos.toNat : Int) = t.nanos := Int.toNat_of_nonneg (Int.not_lt.1 nonnegative)
    have within : (t.nanos.toNat : Int) ≤ maxSpanNanos := same ▸ t.bounded.2
    rw [ofDuration, dif_pos within]
    congr

end TimeSpan

namespace LeafType

/-- The value for the datum stands for it alone. Spans end before durations do, and a
number is held as an undeclared one only while no variant declares it. -/
def Representable : (t : LeafType) → t.Carrier → Prop
  | duration, d => (d.nanos : Int) ≤ maxSpanNanos
  | enum _ _, m => m.Proper
  | _, _ => True

/-- The moment of a value with an offset, where the type keeps no offset. -/
def reencode : LeafType → Value → Value
  | utc, .dateTimeOffset t => .dateTimeOffset ⟨t.instant, 0⟩
  | _, v => v

theorem reads_toValue {t : LeafType} (known : ∀ type, t ≠ custom type) {x : t.Carrier}
    (representable : t.Representable x) : t.Reads (t.toValue x) x := by
  cases t with
  | utc => exact .utc ⟨x, 0⟩
  | duration => exact .duration (TimeSpan.toDuration?_ofDuration representable)
  | enum home type => exact .enum representable
  | custom type => exact absurd rfl (known type)
  | _ => constructor

theorem toValue_of_reads {t : LeafType} {v : Value} {x : t.Carrier} (reads : t.Reads v x) :
    t.toValue x = t.reencode v := by
  cases reads with
  | duration lasts => exact congrArg Value.timeSpan (TimeSpan.ofDuration_of_toDuration? lasts)
  | _ => rfl

end LeafType

namespace FieldType

/-- Null is left to mean nothing: no option is directly around another, nor around a type
that takes any value. Types that nothing is exactly of are left out. -/
def Unambiguous : FieldType → Prop
  | leaf type => ∀ custom, type ≠ .custom custom
  | array item => item.Unambiguous
  | option inner => inner.Unambiguous ∧ inner ≠ leaf .value ∧ ∀ t, inner ≠ option t

/-- Every datum within stands alone for its value. -/
def Representable : (t : FieldType) → t.Carrier → Prop
  | leaf type, x => type.Representable x
  | array item, xs => ∀ x ∈ xs, Representable item x
  | option _, none => True
  | option inner, some x => Representable inner x

/-- The value in the one form that data of the type are written in: a byte buffer becomes
the list of its bytes, and a moment without offset is kept at offset zero. -/
def reencode : FieldType → Value → Value
  | leaf type, v => type.reencode v
  | array item, .list vs => .list (vs.map (reencode item))
  | array _, .bytes bs => .list (bs.map .byte)
  | array _, v => v
  | option inner, v => reencode inner v

theorem reencode_null (t : FieldType) : t.reencode .null = .null := by
  induction t with
  | leaf type => cases type <;> rfl
  | array item _ => rfl
  | option inner ih => exact ih

theorem reencode_byte (t : FieldType) (b : UInt8) : t.reencode (.byte b) = .byte b := by
  induction t with
  | leaf type => cases type <;> rfl
  | array item _ => rfl
  | option inner ih => exact ih

theorem toValue_ne_null {t : FieldType} (unambiguous : (option t).Unambiguous) (x : t.Carrier) :
    t.toValue x ≠ .null := by
  obtain ⟨known, notValue, notOption⟩ := unambiguous
  cases t with
  | leaf type =>
    cases type with
    | value => exact absurd rfl notValue
    | custom type => exact absurd rfl (known type)
    | _ => nofun
  | array item => nofun
  | option inner => exact absurd rfl (notOption inner)

theorem reads_toValue {t : FieldType} (unambiguous : t.Unambiguous) {x : t.Carrier}
    (representable : t.Representable x) : t.Reads (t.toValue x) x := by
  induction t with
  | leaf type => exact LeafType.reads_toValue unambiguous representable
  | array item ih =>
    refine List.forall₂_map_left_iff.2 (List.forall₂_same.2 fun x member => ?_)
    exact ih unambiguous (representable x member)
  | option inner ih =>
    cases x with
    | none => rfl
    | some x => exact ⟨toValue_ne_null unambiguous x, ih unambiguous.1 representable⟩

theorem toValue_of_reads {t : FieldType} {v : Value} {x : t.Carrier} (reads : t.Reads v x) :
    t.toValue x = t.reencode v := by
  induction t generalizing v with
  | leaf type => exact LeafType.toValue_of_reads reads
  | array item ih =>
    have each {vs : List Value} {xs : List item.Carrier} (items : List.Forall₂ item.Reads vs xs) :
        xs.map item.toValue = vs.map item.reencode := by
      induction items with
      | nil => rfl
      | cons first _ later => rw [List.map_cons, List.map_cons, ih first, later]
    cases v with
    | list vs => exact congrArg Value.list (each reads)
    | bytes bs =>
      have kept : (bs.map .byte).map item.reencode = bs.map .byte := by
        rw [List.map_map]
        exact List.map_congr_left fun b _ => item.reencode_byte b
      exact congrArg Value.list ((each reads.2).trans kept)
    | _ => cases reads
  | option inner ih =>
    cases x with
    | none =>
      cases reads
      exact (reencode_null inner).symm
    | some x => exact ih reads.2

/-- A datum that stands alone for its value is taken out of it again, and a field that is
set to the value by its name holds it. The other way around, the value for a datum that was
taken out is the one it was taken from, but for a byte buffer, which comes back as the list
of its bytes, and for moments without offset, which come back at offset zero. -/
theorem exact_round_trip :
    (∀ (t : FieldType) (x : t.Carrier), t.Unambiguous → t.Representable x →
      t.fromExact (t.toValue x) = .ok x) ∧
    (∀ (fields : Fields) (p : Fields.Position fields) (name : String),
      p.IsFirst .setting name → ∀ x : p.leaf.type.Carrier,
      p.leaf.type.Unambiguous → p.leaf.type.Representable x → ∀ record : fields.Instance,
        p.get (fields.setByName name (p.leaf.type.toValue x) record) = x) ∧
    ∀ (t : FieldType) (v : Value) (x : t.Carrier),
      t.fromExact v = .ok x → t.toValue x = t.reencode v := by
  refine ⟨?_, ?_, fun t v x taken => toValue_of_reads (fromExact_eq_ok_iff.1 taken)⟩
  · intro t x unambiguous representable
    exact fromExact_eq_ok_iff.2 (reads_toValue unambiguous representable)
  · intro fields p name first x unambiguous representable record
    have converts := coerce_of_reads (reads_toValue unambiguous representable)
    rw [Fields.get_setByName_of_isFirst first, coerceOrDefault_of_ok converts]

/-- The optional colour of a palette. -/
def accent : Fields.Position Sample.paletteFields := .later .here

/-- A colour that has no variant of its own is kept, and so is a buffer in another form. -/
theorem accent_round_trip :
    accent.get (Sample.paletteFields.setByName "ACCENT" (.enum ⟨"Color", 9⟩)
        Sample.paletteFields.default) = some (.other ⟨9, by decide⟩ rfl) ∧
      (array (Sample.int .u8)).toValue [⟨7, by decide⟩] =
        (array (Sample.int .u8)).reencode (.bytes [7]) := by
  obtain ⟨_, set, written⟩ := exact_round_trip
  have first : accent.IsFirst .setting "ACCENT" := Fields.isFirst_of_reached? (by decide)
  have undeclared : ¬Sample.color.Declares 9 := by decide
  refine ⟨?_, written _ _ _ rfl⟩
  exact set _ accent _ first (some (.other ⟨9, by decide⟩ rfl)) ⟨nofun, nofun, nofun⟩ undeclared _

end FieldType

end RecordBinding
