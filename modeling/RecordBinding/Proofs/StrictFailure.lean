import RecordBinding.Proofs.ErrorContext
import RecordBinding.Proofs.FieldCoercion
import RecordBinding.Proofs.RowBinding

namespace RecordBinding

/-- A conversion to an enumerated type fails on a value that is no number of the
representation, or else on the number, when nothing is declared with it. -/
theorem EnumType.tryFrom_error_cases {type : EnumType} {v : Value} {reason : Error}
    (fails : type.tryFrom v = .error reason) :
    (v.toInt? type.repr = none ∧ reason = .conversion v type.repr.spelling) ∨
      ∃ repr, v.toInt? type.repr = some repr ∧ ¬type.Declares repr.val ∧ type.other = none ∧
        reason = .conversion (.int type.repr repr) type.name := by
  cases narrowed : v.toInt? type.repr with
  | none =>
    simp only [tryFrom, narrowed, Except.error.injEq] at fails
    exact Or.inl ⟨rfl, fails.symm⟩
  | some repr =>
    simp only [tryFrom, narrowed] at fails
    cases read : type.fromRepr? repr with
    | some member =>
      simp only [fromRepr, read, reduceCtorEq] at fails
    | none =>
      simp only [fromRepr, read, Except.error.injEq] at fails
      obtain ⟨undeclared, lacking⟩ := fromRepr?_eq_none_iff.1 read
      exact Or.inr ⟨repr, rfl, undeclared, lacking, fails.symm⟩

/-- The enumerated type that this is, under any number of options. -/
def FieldType.enumType? : FieldType → Option EnumType
  | leaf (.enum _ type) => some type
  | option inner => inner.enumType?
  | _ => none

/-- Types other than the enumerated ones refuse a value as it came. -/
theorem LeafType.tryFrom_refuses_value {t : LeafType} (known : t.isOther = false)
    (plain : (FieldType.leaf t).enumType? = none) {v : Value} {reason : Error}
    (fails : t.tryFrom v = .error reason) : reason = .conversion v t.name := by
  cases t with
  | value => cases known
  | custom type => cases known
  | enum home type => cases plain
  | bool | int kind | single | double | decimal | char | string =>
    exact (orRefuse_eq_error_iff.1 fails).2
  | duration =>
    cases v with
    | timeSpan t => exact (orRefuse_eq_error_iff.1 fails).2
    | _ => cases fails; rfl
  -- the rest take the one variant that stores them
  | _ => cases v <;> cases fails <;> rfl

namespace FieldType

/-- The value that a failed conversion reports: the one to be converted. Only a number that
an enumerated type could hold but does not know is reported as a value of the
representation. -/
inductive Blames (t : FieldType) (v : Value) : Value → Prop
  | unchanged (unread : ∀ type, t.enumType? = some type → v.toInt? type.repr = none) : Blames t v v
  | undeclared {type : EnumType} {repr : type.repr.Number} (enumerated : t.enumType? = some type)
      (read : v.toInt? type.repr = some repr) (unknown : ¬type.Declares repr.val)
      (lacking : type.other = none) : Blames t v (.int type.repr repr)

theorem Blames.option {inner : FieldType} {v w : Value} (blames : inner.Blames v w) :
    (option inner).Blames v w := by
  cases blames with
  | unchanged unread => exact .unchanged unread
  | undeclared enumerated read unknown lacking => exact .undeclared enumerated read unknown lacking

theorem tryFrom_error_blames {type : LeafType} (known : type.isOther = false) {v : Value}
    {reason : Error} (fails : type.tryFrom v = .error reason) :
    ∃ w target, reason = .conversion w target ∧ (leaf type).Blames v w := by
  cases enumerated : (leaf type).enumType? with
  | none =>
    have refused := LeafType.tryFrom_refuses_value known enumerated fails
    refine ⟨v, _, refused, .unchanged fun other same => ?_⟩
    cases enumerated.symm.trans same
  | some declared =>
    cases type with
    | enum home type =>
      rcases EnumType.tryFrom_error_cases fails with
        ⟨unread, rfl⟩ | ⟨repr, read, unknown, lacking, rfl⟩
      · refine ⟨v, _, rfl, .unchanged fun other same => ?_⟩
        cases same
        exact unread
      · exact ⟨_, _, rfl, .undeclared rfl read unknown lacking⟩
    | _ => cases enumerated

/-- A field that does not take a value says so of the value itself, as it came: a list is
never taken apart for it, and options around the type do not show. -/
theorem coerce_error_blames {t : FieldType} (known : t.containsOther = false) {v : Value}
    {reason : Error} (fails : t.coerce v = .error reason) :
    ∃ w target, reason = .conversion w target ∧ t.Blames v w := by
  induction t with
  | leaf type => exact tryFrom_error_blames known ((type.coerce_eq_tryFrom v).symm.trans fails)
  | array item _ =>
    have items : item.containsOther = false := known
    rw [coerce, items, if_neg Bool.false_ne_true] at fails
    obtain ⟨_, rfl⟩ := intoArray_eq_error_iff.1 fails
    refine ⟨v, _, rfl, .unchanged fun type enumerated => ?_⟩
    cases enumerated
  | option inner ih =>
    have notNull : v ≠ .null := by
      rintro rfl
      cases fails
    rw [coerce_option_of_ne notNull] at fails
    cases inside : inner.coerce v with
    | ok x =>
      rw [inside] at fails
      cases fails
    | error cause =>
      rw [inside] at fails
      cases fails
      obtain ⟨w, target, same, blames⟩ := ih known inside
      exact ⟨w, target, same, blames.option⟩

end FieldType

namespace Fields

open Position

/-- A row fails at its first column that some leaf receives and does not take. -/
theorem bindRow_first_failure {fields : Fields} {record : fields.Instance} {row : Row} {e : Error}
    (failed : fields.bindRow record row = .error e) :
    ∃ (earlier : Row) (name : String) (v : Value) (later : Row) (p : Position fields)
      (reason : Error), row = earlier ++ (name, v) :: later ∧ fields.Converts earlier ∧
        p.Receives name ∧ p.leaf.type.coerce v = .error reason ∧
        e = reason.within (.column p.leaf.name) := by
  induction row generalizing record with
  | nil => cases failed
  | cons column rest ih =>
    obtain ⟨name, v⟩ := column
    rcases fields.unresolved_or_receives name with unresolved | ⟨p, receives⟩
    · rw [bindRow_of_unresolved unresolved] at failed
      obtain ⟨earlier, bad, w, later, p, reason, rfl, converts, fails⟩ := ih failed
      refine ⟨(name, v) :: earlier, bad, w, later, p, reason, rfl, ?_, fails⟩
      refine converts_cons.2 ⟨fun q received => ?_, converts⟩
      exact absurd received (not_receives_of_unresolved unresolved q)
    · cases outcome : p.leaf.type.coerce v with
      | error reason =>
        rw [bindRow_of_error receives outcome] at failed
        exact ⟨[], name, v, rest, p, reason, rfl, nofun, receives, outcome,
          (Except.error.inj failed).symm⟩
      | ok x =>
        rw [bindRow_of_ok receives outcome] at failed
        obtain ⟨earlier, bad, w, later, q, reason, rfl, converts, fails⟩ := ih failed
        refine ⟨(name, v) :: earlier, bad, w, later, q, reason, rfl, ?_, fails⟩
        refine converts_cons.2 ⟨fun other received => ?_, converts⟩
        cases receives.unique received
        exact ⟨x, outcome⟩

/-- A row that cannot be materialized fails with the error of one column: the first in row
order that resolves to a slot and does not convert for the leaf that owns the slot. The
failed conversion is put in one context, which names that leaf however deep it is
flattened, and as it comes without contexts of its own that always succeeds. The value in
the error is the column's own. Only where an enumerated type can hold the value's number
but does not know it, is it the number as a value of the representation. -/
theorem fromRow?_error_blames_first_failure (type : RecordType)
    (known : ∀ p : Position type.fields, p.leaf.access.isColumn = true →
      p.leaf.type.containsOther = false)
    (row : Row) (e : Error) (failed : type.fromRow? row = some (.error e)) :
    ∃ (earlier : Row) (name : String) (v : Value) (later : Row) (slot : Nat)
      (p : Position type.fields) (reason : Error) (w : Value) (target : String),
      row = earlier ++ (name, v) :: later ∧
      (∀ column ∈ earlier, ∀ slot q, type.fields.resolveColumn column.1 = some slot →
        type.fields.owner? slot = some q → ∃ x, q.leaf.type.coerce column.2 = .ok x) ∧
      type.fields.resolveColumn name = some slot ∧ type.fields.owner? slot = some p ∧
      p.leaf.type.coerce v = .error reason ∧
      reason.inContextOf (.column p.leaf.name) false = .ok e ∧
      e.chain = [.column p.leaf.name, .conversion w target] ∧
      e.field? = some p.leaf.name ∧ e.isConversion = true ∧ e.isArity = false ∧
      e.value? = some w ∧ p.leaf.type.Blames v w := by
  obtain ⟨start, _, bound⟩ := Option.map_eq_some_iff.1 failed
  obtain ⟨earlier, name, v, later, p, reason, rfl, converts, receives, fails, rfl⟩ :=
    bindRow_first_failure bound
  obtain ⟨slot, resolved, owned⟩ := receives
  obtain ⟨w, target, rfl, blames⟩ := FieldType.coerce_error_blames (known p (isColumn_of_owner? owned)) fails
  refine ⟨earlier, name, v, later, slot, p, _, w, target, rfl, ?_, resolved, owned, fails, rfl, rfl,
    rfl, rfl, rfl, rfl, blames⟩
  intro column member other q resolvedTo ownedBy
  exact converts column member q ⟨other, resolvedTo, ownedBy⟩

/-- An optional level two records down. -/
def reportFields : Fields :=
  Sample.bound "Title" "title" Sample.text <|
  .flatten "graded" "Graded"
    (.flatten "base" "BaseClass" Sample.baseFields <|
      Sample.bound "Grade" "grade" (.option Sample.levelType) .nil) .nil

def report : RecordType := Sample.ofFields Sample.testsHome "Report" reportFields

/-- A column that converts, one for nothing, a number that no level has, and one more value
that does not convert. -/
def ungradedRow : Row :=
  [("title", .string "Trees"), ("other", .null), ("GRADE", .enum ⟨"Dude", 7⟩), ("id", .string "seven")]

/-- The level is to blame, with its number in the representation of levels. -/
theorem report_blames_grade :
    (∀ p : Position reportFields, p.leaf.access.isColumn = true →
      p.leaf.type.containsOther = false) ∧
    ∃ e, report.fromRow? ungradedRow = some (.error e) ∧ e.field? = some "Grade" ∧
      e.value? = some (.int .i16 ⟨7, by decide⟩) ∧
      ∃ (earlier : Row) (column : String × Value) (later : Row) (p : Position reportFields)
        (w : Value), ungradedRow = earlier ++ column :: later ∧ e.field? = some p.leaf.name ∧
          e.value? = some w ∧ p.leaf.type.Blames column.2 w := by
  have known : ∀ p : Position reportFields, p.leaf.access.isColumn = true →
      p.leaf.type.containsOther = false := by
    have each : ∀ p ∈ reportFields.positions, p.leaf.type.containsOther = false := by decide
    exact fun p _ => each p (mem_positions p)
  obtain ⟨e, failed, field, value⟩ : ∃ e, report.fromRow? ungradedRow = some (.error e) ∧
      e.field? = some "Grade" ∧ e.value? = some (.int .i16 ⟨7, by decide⟩) := ⟨_, rfl, rfl, rfl⟩
  obtain ⟨earlier, name, v, later, _, p, _, w, _, split, _, _, _, _, _, _, named, _, _, held, blames⟩ :=
    fromRow?_error_blames_first_failure report known ungradedRow e failed
  exact ⟨known, e, failed, field, value, earlier, (name, v), later, p, w, split, named, held, blames⟩

end Fields

end RecordBinding
