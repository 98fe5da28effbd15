import Mathlib.Data.List.Forall2
import RecordBinding.Field.Exact
import RecordBinding.Proofs.EnumRepresentation

namespace RecordBinding

namespace EnumType

variable {e : EnumType}

theorem fromExact_of_proper {m : e.Member} (proper : m.Proper) :
    e.fromExact (.enum m.tag) = .ok m := by
  have read : (e.repr.ofInt? m.toRepr.val).bind e.fromRepr? = some m := by
    rw [IntKind.ofInt?_val]
    exact fromRepr?_eq_some_iff.2 ⟨rfl, proper⟩
  simp only [fromExact, Member.tag, if_true, read]

/-- A value of another type, or one with a number that the type cannot hold or does not
know, is handed back. -/
theorem fromExact_cases (e : EnumType) (v : Value) :
    (∃ m : e.Member, m.Proper ∧ v = .enum m.tag) ∨ e.fromExact v = .error v := by
  cases v with
  | enum tag =>
    obtain ⟨typeName, ordinal⟩ := tag
    by_cases same : typeName = e.name
    · subst same
      cases read : (e.repr.ofInt? ordinal).bind e.fromRepr? with
      | some m =>
        obtain ⟨repr, within, held⟩ := Option.bind_eq_some_iff.1 read
        obtain ⟨rfl, proper⟩ := fromRepr?_eq_some_iff.1 held
        refine Or.inl ⟨m, proper, ?_⟩
        rw [IntKind.ofInt?_eq_some_iff.1 within]
        rfl
      | none =>
        refine Or.inr ?_
        simp only [fromExact, if_true, read]
    · exact Or.inr (if_neg same)
  | _ => exact Or.inr rfl

theorem isExactly_eq (e : EnumType) (v : Value) : e.isExactly v = (e.fromExact v).isOk := by
  cases v <;> rfl

end EnumType

namespace LeafType

/-- The value is a datum of the type as it stands: it is of the variant that stores the
type, or of the one that stores another form of it. -/
inductive Reads : (t : LeafType) → Value → t.Carrier → Prop
  | bool (b) : Reads bool (.bool b) b
  | int {kind} (n) : Reads (int kind) (.int kind n) n
  | single (x) : Reads single (.single x) x
  | double (x) : Reads double (.double x) x
  | decimal (d) : Reads decimal (.decimal d) d
  | char (c) : Reads char (.char c) c
  | string (s) : Reads string (.string s) s
  | dateTime (t) : Reads dateTime (.dateTime t) t
  | dateTimeOffset (t) : Reads dateTimeOffset (.dateTimeOffset t) t
  | utc (t) : Reads utc (.dateTimeOffset t) t.instant
  | timeSpan (t) : Reads timeSpan (.timeSpan t) t
  | duration {t d} (lasts : t.toDuration? = some d) : Reads duration (.timeSpan t) d
  | guid (id) : Reads guid (.guid id) id
  | value (v) : Reads value v v
  | enum {home type} {m : type.Member} (proper : m.Proper) : Reads (enum home type) (.enum m.tag) m

theorem taken_of_reads {t : LeafType} {v : Value} {x : t.Carrier} (reads : t.Reads v x) :
    t.isExactly v = true ∧ t.fromExact v = .ok x := by
  cases reads with
  | int n => exact ⟨beq_self_eq_true _, dif_pos rfl⟩
  | duration lasts =>
    simp only [isExactly, fromExact, lasts]
    exact ⟨rfl, trivial⟩
  | @enum home type m proper =>
    have taken := EnumType.fromExact_of_proper proper
    exact ⟨(type.isExactly_eq _).trans (congrArg Except.isOk taken), taken⟩
  | _ => exact ⟨rfl, rfl⟩

theorem reads_or_refused (t : LeafType) (v : Value) :
    (∃ x, t.Reads v x) ∨ (t.isExactly v = false ∧ t.fromExact v = .error v) := by
  cases t with
  | int kind =>
    cases v with
    | int other n =>
      by_cases same : other = kind
      · subst same
        exact Or.inl ⟨n, .int n⟩
      · exact Or.inr ⟨beq_false_of_ne same, dif_neg same⟩
    | _ => exact Or.inr ⟨rfl, rfl⟩
  | duration =>
    cases v with
    | timeSpan t =>
      cases lasts : t.toDuration? with
      | some d => exact Or.inl ⟨d, .duration lasts⟩
      | none =>
        simp only [isExactly, fromExact, lasts]
        exact Or.inr ⟨rfl, trivial⟩
    | _ => exact Or.inr ⟨rfl, rfl⟩
  | enum home type =>
    rcases type.fromExact_cases v with ⟨m, proper, rfl⟩ | back
    · exact Or.inl ⟨m, .enum proper⟩
    · exact Or.inr ⟨(type.isExactly_eq v).trans (congrArg Except.isOk back), back⟩
  | value => exact Or.inl ⟨v, .value v⟩
  | custom type => exact Or.inr ⟨rfl, rfl⟩
  -- every other type is stored in one variant, and refuses all values but those
  | _ => cases v <;> first | exact Or.inr ⟨rfl, rfl⟩ | exact Or.inl ⟨_, by constructor⟩

end LeafType

theorem mapM_eq_ok_of_forall₂ {α β ε : Type} {f : α → Except ε β} {as : List α} {bs : List β}
    (each : List.Forall₂ (fun a b => f a = .ok b) as bs) : as.mapM f = .ok bs := by
  induction each with
  | nil => rfl
  | cons first _ ih =>
    rw [List.mapM_cons, first, ih]
    rfl

theorem all_of_forall₂ {α β : Type} {p : α → Bool} {as : List α} {bs : List β}
    (each : List.Forall₂ (fun a _ => p a = true) as bs) : as.all p = true := by
  induction each with
  | nil => rfl
  | cons first _ ih => rw [List.all_cons, first, ih]; rfl

theorem exists_forall₂ {α β : Type} {related : α → β → Prop} {as : List α}
    (each : ∀ a ∈ as, ∃ b, related a b) : ∃ bs, List.Forall₂ related as bs := by
  induction as with
  | nil => exact ⟨[], .nil⟩
  | cons a rest ih =>
    obtain ⟨first, others⟩ := List.forall_mem_cons.1 each
    obtain ⟨b, related⟩ := first
    obtain ⟨bs, later⟩ := ih others
    exact ⟨b :: bs, .cons related later⟩

namespace FieldType

/-- The value is a datum of the type as it stands. A byte buffer is the list of its bytes
for item types that bytes are data of. For all others it is no array, even if empty. -/
def Reads : (t : FieldType) → Value → t.Carrier → Prop
  | leaf type, v, x => type.Reads v x
  | option _, v, none => v = .null
  | option inner, v, some x => v ≠ .null ∧ Reads inner v x
  | array item, .list vs, xs => List.Forall₂ (Reads item) vs xs
  | array item, .bytes bs, xs =>
    (∃ x, Reads item (.byte 0) x) ∧ List.Forall₂ (Reads item) (bs.map .byte) xs
  | array _, _, _ => False

theorem fromExact_option_of_ne (inner : FieldType) {v : Value} (notNull : v ≠ .null) :
    (option inner).fromExact v = (inner.fromExact v).map some ∧
      (option inner).isExactly v = inner.isExactly v := by
  cases v with
  | null => exact absurd rfl notNull
  | _ => exact ⟨rfl, rfl⟩

theorem fromExact_array_of_inexact {item : FieldType} {v : Value}
    (inexact : (array item).isExactly v = false) : (array item).fromExact v = .error v :=
  if_neg (Bool.eq_false_iff.1 inexact)

theorem reads_byte {t : FieldType} {a : UInt8} (reads : ∃ x, t.Reads (.byte a) x) (b : UInt8) :
    ∃ x, t.Reads (.byte b) x := by
  induction t with
  | leaf type =>
    obtain ⟨x, reads⟩ := reads
    cases reads with
    | int n => exact ⟨_, .int _⟩
    | value v => exact ⟨_, .value _⟩
  | option inner ih =>
    obtain ⟨x, reads⟩ := reads
    cases x with
    | none => cases reads
    | some x =>
      obtain ⟨y, again⟩ := ih ⟨x, reads.2⟩
      exact ⟨some y, nofun, again⟩
  | array item ih =>
    obtain ⟨x, reads⟩ := reads
    cases reads

/-- A value that is a datum of the type passes the check, and the datum is taken out. -/
theorem taken_of_reads {t : FieldType} {v : Value} {x : t.Carrier} (reads : t.Reads v x) :
    t.isExactly v = true ∧ t.fromExact v = .ok x := by
  induction t generalizing v with
  | leaf type => exact LeafType.taken_of_reads reads
  | option inner ih =>
    cases x with
    | none =>
      cases reads
      exact ⟨rfl, rfl⟩
    | some x =>
      obtain ⟨notNull, inside⟩ := reads
      obtain ⟨exactly, taken⟩ := ih inside
      obtain ⟨fromInner, exactlyInner⟩ := fromExact_option_of_ne inner notNull
      rw [fromInner, exactlyInner, taken]
      exact ⟨exactly, rfl⟩
  | array item ih =>
    cases v with
    | list vs =>
      have exactly : (array item).isExactly (.list vs) = true :=
        all_of_forall₂ (reads.imp fun _ _ inside => (ih inside).1)
      refine ⟨exactly, (if_pos exactly).trans ?_⟩
      exact mapM_eq_ok_of_forall₂ (reads.imp fun _ _ inside => (ih inside).2)
    | bytes bs =>
      obtain ⟨⟨y, first⟩, items⟩ := reads
      have exactly : (array item).isExactly (.bytes bs) = true := (ih first).1
      refine ⟨exactly, (if_pos exactly).trans ?_⟩
      exact mapM_eq_ok_of_forall₂
        ((List.forall₂_map_left_iff.1 items).imp fun _ _ inside => (ih inside).2)
    | _ => cases reads

/-- A value that is no datum of the type fails the check and is handed back whole. An item
is only ever taken out of a list after all items have passed. -/
theorem reads_or_refused (t : FieldType) (v : Value) :
    (∃ x, t.Reads v x) ∨ (t.isExactly v = false ∧ t.fromExact v = .error v) := by
  induction t generalizing v with
  | leaf type => exact type.reads_or_refused v
  | option inner ih =>
    by_cases null : v = .null
    · exact Or.inl ⟨none, null⟩
    · rcases ih v with ⟨x, reads⟩ | ⟨inexact, back⟩
      · exact Or.inl ⟨some x, null, reads⟩
      · obtain ⟨fromInner, exactlyInner⟩ := fromExact_option_of_ne inner null
        rw [fromInner, exactlyInner, back]
        exact Or.inr ⟨inexact, rfl⟩
  | array item ih =>
    cases v with
    | list vs =>
      cases passed : vs.all item.isExactly with
      | true =>
        refine Or.inl (exists_forall₂ fun v member => ?_)
        rcases ih v with reads | ⟨inexact, _⟩
        · exact reads
        · cases inexact.symm.trans (List.all_eq_true.1 passed v member)
      | false => exact Or.inr ⟨passed, fromExact_array_of_inexact passed⟩
    | bytes bs =>
      rcases ih (.byte 0) with reads | ⟨inexact, _⟩
      · obtain ⟨xs, items⟩ : ∃ xs, List.Forall₂ item.Reads (bs.map .byte) xs := by
          refine exists_forall₂ fun v member => ?_
          obtain ⟨b, _, rfl⟩ := List.mem_map.1 member
          exact reads_byte reads b
        exact Or.inl ⟨xs, reads, items⟩
      · exact Or.inr ⟨inexact, fromExact_array_of_inexact inexact⟩
    | _ => exact Or.inr ⟨rfl, rfl⟩

theorem fromExact_eq_ok_iff {t : FieldType} {v : Value} {x : t.Carrier} :
    t.fromExact v = .ok x ↔ t.Reads v x := by
  refine ⟨fun taken => ?_, fun reads => (taken_of_reads reads).2⟩
  rcases t.reads_or_refused v with ⟨y, reads⟩ | ⟨_, back⟩
  · cases taken.symm.trans (taken_of_reads reads).2
    exact reads
  · cases taken.symm.trans back

theorem isExactly_iff_reads {t : FieldType} {v : Value} :
    t.isExactly v = true ↔ ∃ x, t.Reads v x := by
  refine ⟨fun exactly => ?_, fun ⟨_, reads⟩ => (taken_of_reads reads).1⟩
  rcases t.reads_or_refused v with reads | ⟨inexact, _⟩
  · exact reads
  · cases inexact.symm.trans exactly

theorem fromExact_eq_error_iff {t : FieldType} {v w : Value} :
    t.fromExact v = .error w ↔ w = v ∧ t.isExactly v = false := by
  rcases t.reads_or_refused v with ⟨x, reads⟩ | ⟨inexact, back⟩
  · obtain ⟨exactly, taken⟩ := taken_of_reads reads
    rw [exactly, taken]
    exact iff_of_false nofun nofun
  · rw [inexact, back, Except.error.injEq, eq_comm]
    exact (and_iff_left rfl).symm

theorem intoArray_eq_ok_iff {item : FieldType} {v : Value} {xs : List item.Carrier} :
    v.intoArray item = .ok xs ↔ (array item).Reads v xs := by
  rw [← fromExact_eq_ok_iff, Value.intoArray]
  cases (array item).fromExact v with
  | ok ys => rw [Except.ok.injEq, Except.ok.injEq]
  | error back => exact iff_of_false nofun nofun

theorem intoArray_eq_error_iff {item : FieldType} {v : Value} {e : Error} :
    v.intoArray item = .error e ↔
      (array item).isExactly v = false ∧ e = .conversion v (array item).path := by
  rw [Value.intoArray]
  rcases (array item).reads_or_refused v with ⟨xs, reads⟩ | ⟨inexact, back⟩
  · obtain ⟨exactly, taken⟩ := taken_of_reads reads
    rw [exactly, taken]
    exact iff_of_false nofun nofun
  · rw [inexact, back, and_iff_right rfl]
    refine ⟨fun same => (Except.error.inj same).symm, ?_⟩
    rintro rfl
    rfl

/-- Checking a value, taking the datum out of it and handing it back agree, however options
and arrays are nested. A value passes the check just when a datum can be taken out, and
that is the datum it stands for. Else the value comes back itself and whole. So an array
is refused with an error that carries the value it was to be reread from. -/
theorem isExactly_iff_fromExact_ok (t : FieldType) (v : Value) :
    (t.isExactly v = true ↔ ∃ x, t.fromExact v = .ok x) ∧
    (∀ x, t.fromExact v = .ok x ↔ t.Reads v x) ∧
    (∀ w, t.fromExact v = .error w ↔ w = v ∧ t.isExactly v = false) ∧
    (∀ xs, v.intoArray t = .ok xs ↔ (array t).Reads v xs) ∧
    ∀ e, v.intoArray t = .error e → (array t).isExactly v = false ∧ e.value? = some v := by
  refine ⟨?_, fun _ => fromExact_eq_ok_iff, fun _ => fromExact_eq_error_iff,
    fun _ => intoArray_eq_ok_iff, ?_⟩
  · simp only [fromExact_eq_ok_iff]
    exact isExactly_iff_reads
  · intro e refused
    obtain ⟨inexact, rfl⟩ := intoArray_eq_error_iff.1 refused
    exact ⟨inexact, rfl⟩

end FieldType

end RecordBinding
