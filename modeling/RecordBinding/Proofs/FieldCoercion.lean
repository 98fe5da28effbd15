import RecordBinding.Field.Coercion
import RecordBinding.Proofs.Exactness

namespace RecordBinding

theorem EnumType.tryFrom_eq (e : EnumType) (v : Value) :
    e.tryFrom v = ((LeafType.int e.repr).tryFrom v).bind e.fromRepr := by
  rw [tryFrom, LeafType.tryFrom]
  cases v.toInt? e.repr <;> rfl

namespace LeafType

theorem tryFrom_of_reads {t : LeafType} {v : Value} {x : t.Carrier} (reads : t.Reads v x) :
    t.tryFrom v = .ok x := by
  cases reads with
  | @int kind n =>
    have narrowed : (Value.int kind n).toInt? kind = some n := IntKind.ofInt?_val n
    rw [tryFrom, narrowed, orRefuse]
  | duration lasts => rw [tryFrom, lasts, orRefuse]
  | @enum home type m proper =>
    have narrowed : (Value.enum m.tag).toInt? type.repr = some m.toRepr := IntKind.ofInt?_val m.toRepr
    rw [tryFrom, EnumType.tryFrom, narrowed]
    exact EnumType.fromRepr_eq_ok_iff.2 ⟨rfl, proper⟩
  | _ => rfl

/-- The variant that stores the type holds data of it. -/
theorem reads_of_stored {t : LeafType} {v : Value} {x : t.Carrier} (held : t.stored? v = some x) :
    t.Reads v x := by
  cases t with
  | int kind =>
    cases v with
    | int other n =>
      by_cases same : other = kind
      · subst same
        cases (dif_pos rfl).symm.trans held
        exact .int n
      · cases (dif_neg same).symm.trans held
    | _ => cases held
  | _ => cases v <;> cases held <;> constructor

/-- A value in the variant that stores the type converts to what it stores, so that
looking for that variant first changes nothing. -/
theorem coerce_eq_tryFrom (t : LeafType) (v : Value) : t.coerce v = t.tryFrom v := by
  cases t with
  | string => cases v <;> rfl
  | enum home type =>
    refine Eq.trans ?_ (type.tryFrom_eq v).symm
    rw [coerce]
    cases (int type.repr).tryFrom v <;> rfl
  | _ =>
    simp only [coerce]
    split
    · rename_i held
      exact (tryFrom_of_reads (reads_of_stored held)).symm
    · rfl

end LeafType

theorem convertItems_of_forall₂ {α : Type} {f : Value → Except Error α} {vs : List Value}
    {xs : List α} (each : List.Forall₂ (fun v x => f v = .ok x) vs xs) :
    convertItems (m := Id) f vs = .ok xs := by
  induction each with
  | nil => rfl
  | cons first _ ih => simp only [convertItems, pure, bind, first, ih]

namespace FieldType

theorem coerce_option_of_ne {inner : FieldType} {v : Value} (notNull : v ≠ .null) :
    (option inner).coerce v = (inner.coerce v).map some := by
  cases v with
  | null => exact absurd rfl notNull
  | _ => rfl

/-- Converting item by item gives the array that the value is as it stands, if each item that is
a datum of the item type is converted to it. -/
theorem intoArrayWith_of_reads {item : FieldType} {f : Value → Except Error item.Carrier}
    (takes : ∀ v x, item.Reads v x → f v = .ok x) {v : Value} {xs : List item.Carrier}
    (reads : (array item).Reads v xs) : v.intoArrayWith (m := Id) item f = .ok xs := by
  cases v with
  | list vs => exact convertItems_of_forall₂ (reads.imp takes)
  | bytes bs => exact convertItems_of_forall₂ (reads.2.imp takes)
  | _ => cases reads

/-- What is a datum of the type as it stands, a field of the type takes as that datum. -/
theorem coerce_of_reads {t : FieldType} {v : Value} {x : t.Carrier} (reads : t.Reads v x) :
    t.coerce v = .ok x := by
  induction t generalizing v with
  | leaf type => exact (type.coerce_eq_tryFrom v).trans (LeafType.tryFrom_of_reads reads)
  | option inner ih =>
    cases x with
    | none =>
      cases reads
      rfl
    | some x =>
      obtain ⟨notNull, inside⟩ := reads
      rw [coerce_option_of_ne notNull, ih inside]
      rfl
  | array item ih =>
    rw [coerce]
    split
    · exact intoArrayWith_of_reads (fun _ _ inside => ih inside) reads
    · exact intoArray_eq_ok_iff.2 reads

end FieldType

end RecordBinding
