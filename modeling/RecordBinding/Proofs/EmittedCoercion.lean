import RecordBinding.Expansion.Coercion
import RecordBinding.Proofs.FieldCoercion
import RecordBinding.Sample.Types

namespace RecordBinding

theorem IntKind.ofVariant?_variant (kind : IntKind) : ofVariant? kind.variant = some kind := by
  cases kind <;> decide

theorem Value.exists_int_of_variant {v : Value} {kind : IntKind} (named : v.variant = kind.variant) :
    ∃ n, v = .int kind n := by
  have found := IntKind.ofVariant?_variant kind
  rw [← named] at found
  cases v with
  | int other n =>
    cases (IntKind.ofVariant?_variant other).symm.trans found
    exact ⟨n, rfl⟩
  | _ => cases found

namespace LeafType

/-- What a declaration of the type is taken for. -/
def declaredClass : LeafType → LeafClass
  | bool => .bool
  | int kind => .int kind
  | single => .single
  | double => .double
  | decimal => .decimal
  | char => .char
  | string => .string
  | dateTime => .dateTime
  | dateTimeOffset => .dateTimeOffset true
  | utc => .dateTimeOffset false
  | timeSpan => .timeSpan true
  | duration => .timeSpan false
  | guid => .guid
  | value => .other
  | enum _ _ => .enum
  | custom _ => .other

theorem isOther_eq (t : LeafType) : t.isOther = decide (t.declaredClass = .other) := by
  cases t <;> rfl

end LeafType

/-- The declared type is that of a field: it is taken for what it is, at every level. -/
inductive ClassifiedType.Describes : ClassifiedType → FieldType → Prop
  | leaf (type : TypeExpr) (t : LeafType) : Describes (leaf type t.declaredClass) (.leaf t)
  | array (type : TypeExpr) {item : ClassifiedType} {t : FieldType} (inside : item.Describes t) :
    Describes (array type item) (.array t)
  | nullable (type : TypeExpr) {inner : ClassifiedType} {t : FieldType}
    (inside : inner.Describes t) : Describes (nullable type inner) (.option t)

/-- What the code makes of a value, with its type names standing for the type of the
field that it is written for. Code for a field of another shape has no meaning. -/
def Coercion.run : Coercion → (t : FieldType) → Value → Option (Except Error t.Carrier)
  | text, .leaf .string, .string s => some (.ok s)
  | text, .leaf .string, v => some (.error (.conversion v (LeafType.name .string)))
  | nullable _, .option _, .null => some (.ok none)
  | nullable inner, .option t, v => (inner.run t v).map (·.map some)
  | eachItem item, .array t, v => Value.intoArrayWith (m := Option) t (item.run t) v
  | reread _, .array t, v => some (v.intoArray t)
  | representation _, .leaf (.enum _ type), v =>
    some (((LeafType.int type.repr).tryFrom v).bind type.fromRepr)
  | foreign _, .leaf t, v => some (t.tryFrom v)
  | stored variant _, .leaf t, v =>
    if v.variant = variant then (t.stored? v).map .ok else some (t.tryFrom v)
  | general _, .leaf t, v => some (t.tryFrom v)
  | _, _, _ => none

namespace LeafType

/-- Each variant that is looked for stores the type that it is looked for. -/
theorem stored?_of_variant {t : LeafType} {v : Value}
    (looked : t.declaredClass.variant? = some v.variant) : ∃ x, t.stored? v = some x := by
  cases t with
  | int kind =>
    obtain ⟨n, rfl⟩ := Value.exists_int_of_variant (Option.some.inj looked).symm
    exact ⟨n, dif_pos rfl⟩
  -- no other variant has the name that is looked for
  | _ =>
    cases v with
    | int other n =>
      cases other <;>
        simp [declaredClass, LeafClass.variant?, Value.variant, IntKind.variant] at looked
    | _ =>
      first
        | exact ⟨_, rfl⟩
        | simp [declaredClass, LeafClass.variant?, Value.variant] at looked

end LeafType

namespace Coercion

theorem run_stored {t : LeafType} {variant : String}
    (looked : t.declaredClass.variant? = some variant) (type : TypeExpr) (v : Value) :
    (stored variant type).run (.leaf t) v = some (t.tryFrom v) := by
  rw [run]
  by_cases same : v.variant = variant
  · obtain ⟨x, held⟩ := LeafType.stored?_of_variant (looked.trans (congrArg some same.symm))
    rw [if_pos same, held, LeafType.tryFrom_of_reads (LeafType.reads_of_stored held)]
    rfl
  · exact if_neg same

/-- The code for a type without options and arrays amounts to the general conversion,
whatever way it takes. -/
theorem run_ofLeaf (type : TypeExpr) (t : LeafType) (v : Value) :
    (ofLeaf type t.declaredClass).run (.leaf t) v = some (t.tryFrom v) := by
  cases t with
  | string => cases v <;> rfl
  | enum home e => exact congrArg some (e.tryFrom_eq v).symm
  | utc | duration | value | custom => rfl
  | _ => exact run_stored rfl type v

end Coercion

/-- Code that has a meaning for every item has one for the list of them. -/
theorem convertItems_meant {α : Type} {f : Value → Except Error α}
    {code : Value → Option (Except Error α)} (meant : ∀ v, code v = some (f v))
    (vs : List Value) : convertItems code vs = some (convertItems (m := Id) f vs) := by
  induction vs with
  | nil => rfl
  | cons v rest ih =>
    simp only [convertItems, meant, ih, pure, bind, Option.bind_some]
    cases f v with
    | error e => rfl
    | ok x => cases convertItems (m := Id) f rest <;> rfl

theorem intoArrayWith_meant {item : FieldType} {f : Value → Except Error item.Carrier}
    {code : Value → Option (Except Error item.Carrier)} (meant : ∀ v, code v = some (f v))
    (v : Value) : v.intoArrayWith item code = some (v.intoArrayWith (m := Id) item f) := by
  cases v with
  | list vs => exact convertItems_meant meant vs
  | bytes bs => exact convertItems_meant meant (bs.map .byte)
  | _ => rfl

theorem ClassifiedType.containsOther_of_describes {c : ClassifiedType} {t : FieldType}
    (describes : c.Describes t) : c.containsOther = t.containsOther := by
  induction describes with
  | leaf type t => exact t.isOther_eq.symm
  | array type _ ih => exact ih
  | nullable type _ ih => exact ih

namespace Coercion

theorem run_nullable_of_ne {inner : Coercion} {t : FieldType} {v : Value} (notNull : v ≠ .null) :
    (nullable inner).run (.option t) v = (inner.run t v).map (·.map some) := by
  cases v with
  | null => exact absurd rfl notNull
  | _ => rfl

theorem run_ofType {c : ClassifiedType} {t : FieldType} (describes : c.Describes t) (v : Value) :
    (ofType c).run t v = some (t.coerce v) := by
  induction describes generalizing v with
  | leaf type t => exact (run_ofLeaf type t v).trans (congrArg some (t.coerce_eq_tryFrom v).symm)
  | @array type item t inside ih =>
    rw [ofType, FieldType.coerce, ClassifiedType.containsOther_of_describes inside]
    split
    · exact intoArrayWith_meant ih v
    · rfl
  | @nullable type inner t _ ih =>
    by_cases null : v = .null
    · subst null
      rfl
    · rw [ofType, run_nullable_of_ne null, ih, FieldType.coerce_option_of_ne null]
      rfl

/-- Looking for the variant that stores the type first, reading text as it is and going
through a representation cannot be told from the general conversion, in what they take
and in how they fail. Under any options and arrays the code is the field's coercion, and
that takes every value that is a datum of the type as it stands for that datum. -/
theorem run_emitted :
    (∀ (type : TypeExpr) (t : LeafType) (v : Value),
      (ofLeaf type t.declaredClass).run (.leaf t) v = some (t.tryFrom v)) ∧
    (∀ (c : ClassifiedType) (t : FieldType), c.Describes t →
      ∀ v, (ofType c).run t v = some (t.coerce v)) ∧
    ∀ (t : FieldType) (v : Value) (x : t.Carrier), t.fromExact v = .ok x → t.coerce v = .ok x := by
  refine ⟨run_ofLeaf, fun c t describes => run_ofType describes, fun t v x taken => ?_⟩
  exact FieldType.coerce_of_reads (FieldType.fromExact_eq_ok_iff.1 taken)

/-- `Vec<Option<Color>>` -/
def colorsType : TypeExpr :=
  .applied ⟨[], none, "Vec"⟩ false
    (.applied ⟨[], none, "Option"⟩ false (.path ⟨[], none, "Color"⟩ []) false) false

theorem colorsType_run_emitted :
    (ofType (ClassifiedType.classify true colorsType)).run (.array (.option Sample.colorType))
        (.list [.enum ⟨"Color", 2⟩, .null, .enum ⟨"Color", 9⟩]) =
      some (.ok [some (.declared ⟨1, by decide⟩), none, some (.other ⟨9, by decide⟩ rfl)]) := by
  obtain ⟨_, meant, exactly⟩ := run_emitted
  have describes : (ClassifiedType.classify true colorsType).Describes
      (.array (.option Sample.colorType)) :=
    .array _ (.nullable _ (.leaf _ (.enum Sample.testsHome Sample.color)))
  rw [meant _ _ describes]
  exact congrArg some (exactly _ _ _ rfl)

end Coercion

end RecordBinding
