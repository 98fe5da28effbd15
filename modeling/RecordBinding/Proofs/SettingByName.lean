import RecordBinding.Proofs.Slots

namespace RecordBinding

theorem FieldType.coerceOrDefault_of_ok {t : FieldType} {v : Value} {x : t.Carrier}
    (converts : t.coerce v = .ok x) : t.coerceOrDefault v = x := by
  rw [coerceOrDefault, converts]

theorem FieldType.coerceOrDefault_of_error {t : FieldType} {v : Value} {e : Error}
    (fails : t.coerce v = .error e) : t.coerceOrDefault v = t.default := by
  rw [coerceOrDefault, fails]

namespace Fields

open Position

theorem not_isFirst_of_not_settable {fields : Fields} {p : Position fields}
    (hidden : p.leaf.access.isSettable = false) (name : String) : ¬p.IsFirst .setting name := by
  rintro ⟨answers, _⟩
  cases hidden.symm.trans (Bool.and_eq_true_iff.1 answers).1

/-- A name that no settable leaf has hands the value back and leaves the record alone. -/
theorem setField_of_unnamed {fields : Fields} {name : String}
    (unnamed : ∀ p : Position fields, p.leaf.access.isSettable = true → p.isNamed name = false)
    (v : Value) (record : fields.Instance) :
    fields.setField name v record = (record, some v) := by
  have silent : ∀ p : Position fields, p.answers .setting name = false := by
    intro p
    cases settable : p.leaf.access.isSettable with
    | false => exact Bool.and_eq_false_iff.2 (Or.inl settable)
    | true => exact Bool.and_eq_false_iff.2 (Or.inr (unnamed p settable))
  rw [setField_eq, reached?_eq_none_iff.2 silent]

theorem setField_of_isFirst {fields : Fields} {name : String} {p : Position fields}
    (first : p.IsFirst .setting name) (v : Value) (record : fields.Instance) :
    fields.setField name v record = (p.set (p.leaf.type.coerceOrDefault v) record, none) := by
  rw [setField_eq, reached?_eq_some_iff.2 first]

theorem exists_isFirst {fields : Fields} {role : Role} {name : String} {p : Position fields}
    (answers : p.answers role name = true) : ∃ q : Position fields, q.IsFirst role name := by
  cases reach : fields.reached? role name with
  | some q => exact ⟨q, isFirst_of_reached? reach⟩
  | none => cases answers.symm.trans (reached?_eq_none_iff.1 reach p)

/-- Values set by name one after the other. -/
def setEach (fields : Fields) (record : fields.Instance) :
    List (String × Value) → fields.Instance
  | [] => record
  | (name, v) :: rest => fields.setEach (fields.setByName name v record) rest

/-- One setting changes the first settable leaf of its name, and that leaf alone. -/
theorem get_setByName_of_not_first {fields : Fields} {name : String} {p : Position fields}
    (other : ¬p.IsFirst .setting name) (v : Value) (record : fields.Instance) :
    p.get (fields.setByName name v record) = p.get record := by
  rw [setByName, setField_eq]
  cases reach : fields.reached? .setting name with
  | none => rfl
  | some q =>
    have different : p ≠ q := fun same => other (same ▸ isFirst_of_reached? reach)
    exact get_set_of_ne different _ record

theorem setByName_of_isFirst {fields : Fields} {name : String} {p : Position fields}
    (first : p.IsFirst .setting name) (v : Value) (record : fields.Instance) :
    fields.setByName name v record = p.set (p.leaf.type.coerceOrDefault v) record :=
  congrArg Prod.fst (setField_of_isFirst first v record)

theorem get_setByName_of_isFirst {fields : Fields} {name : String} {p : Position fields}
    (first : p.IsFirst .setting name) (v : Value) (record : fields.Instance) :
    p.get (fields.setByName name v record) = p.leaf.type.coerceOrDefault v := by
  rw [setByName_of_isFirst first]
  exact get_set_self p _ record

/-- A leaf that no setting goes to stays as it was. -/
theorem get_setEach_of_unset {fields : Fields} {p : Position fields}
    {settings : List (String × Value)}
    (unset : ∀ setting ∈ settings, ¬p.IsFirst .setting setting.1) (record : fields.Instance) :
    p.get (fields.setEach record settings) = p.get record := by
  induction settings generalizing record with
  | nil => rfl
  | cons setting rest ih =>
    obtain ⟨notHere, notLater⟩ := List.forall_mem_cons.1 unset
    exact (ih notLater _).trans (get_setByName_of_not_first notHere setting.2 record)

theorem setEach_append (fields : Fields) (record : fields.Instance)
    (earlier later : List (String × Value)) :
    fields.setEach record (earlier ++ later) =
      fields.setEach (fields.setEach record earlier) later := by
  induction earlier generalizing record with
  | nil => rfl
  | cons setting rest ih => exact ih _

/-- A leaf holds what the last setting that goes to it has left there. -/
theorem get_setEach_of_last {fields : Fields} {p : Position fields} {name : String}
    (first : p.IsFirst .setting name) {later : List (String × Value)}
    (last : ∀ setting ∈ later, ¬p.IsFirst .setting setting.1)
    (earlier : List (String × Value)) (v : Value) (record : fields.Instance) :
    p.get (fields.setEach record (earlier ++ (name, v) :: later)) =
      p.leaf.type.coerceOrDefault v := by
  rw [setEach_append, setEach, get_setEach_of_unset last]
  exact get_setByName_of_isFirst first v _

/-- Setting by name. Without a settable leaf of the name the value comes back as it was
and the record is as it was. Otherwise the first such leaf takes the converted value, or
its fallback if the value does not convert, and nothing else changes, at any depth. The
fallback is the zero of an enumerated type, and else the default of the type: nothing for
an option, no items for an array. Over any number of settings a leaf that cannot be set
stays as it was, and so does a leaf that no setting goes to. Every other leaf holds the
outcome of the last one that goes to it. -/
theorem setField_assigns_first_settable (fields : Fields) :
    (∀ name, (∀ p : Position fields, p.leaf.access.isSettable = true → p.isNamed name = false) →
      ∀ v record, fields.setField name v record = (record, some v)) ∧
    (∀ name, (∃ p : Position fields, p.leaf.access.isSettable = true ∧ p.isNamed name = true) →
      ∃ p : Position fields, p.IsFirst .setting name) ∧
    (∀ name (p : Position fields), p.IsFirst .setting name → ∀ v record,
      (fields.setField name v record).2 = none ∧
      (∀ x, p.leaf.type.coerce v = .ok x →
        p.Assigns x record (fields.setField name v record).1) ∧
      ∀ e, p.leaf.type.coerce v = .error e →
        p.Assigns p.leaf.type.default record (fields.setField name v record).1) ∧
    (∀ home type, (FieldType.leaf (.enum home type)).default = type.zero) ∧
    (∀ inner, (FieldType.option inner).default = none) ∧
    (∀ item, (FieldType.array item).default = []) ∧
    (∀ settings record (p : Position fields),
      p.leaf.access = .readOnly ∨ p.leaf.access = .skipped →
        p.get (fields.setEach record settings) = p.get record) ∧
    (∀ settings record (p : Position fields),
      (∀ setting ∈ settings, ¬p.IsFirst .setting setting.1) →
        p.get (fields.setEach record settings) = p.get record) ∧
    (∀ earlier name v later record (p : Position fields), p.IsFirst .setting name →
      (∀ setting ∈ later, ¬p.IsFirst .setting setting.1) →
        (∀ x, p.leaf.type.coerce v = .ok x →
          p.get (fields.setEach record (earlier ++ (name, v) :: later)) = x) ∧
        ∀ e, p.leaf.type.coerce v = .error e →
          p.get (fields.setEach record (earlier ++ (name, v) :: later)) = p.leaf.type.default) := by
  refine ⟨fun _ => setField_of_unnamed, ?_, ?_, fun _ _ => rfl, fun _ => rfl, fun _ => rfl,
    ?_, ?_, ?_⟩
  · rintro name ⟨p, settable, named⟩
    exact exists_isFirst (p := p) (Bool.and_eq_true_iff.2 ⟨settable, named⟩)
  · intro name p first v record
    rw [setField_of_isFirst first]
    refine ⟨rfl, ?_, ?_⟩
    · intro x converts
      rw [FieldType.coerceOrDefault_of_ok converts]
      exact p.assigns_set x record
    · intro e fails
      rw [FieldType.coerceOrDefault_of_error fails]
      exact p.assigns_set _ record
  · intro settings record p hidden
    have unsettable : p.leaf.access.isSettable = false := by
      rcases hidden with readOnly | skipped
      · rw [readOnly]; rfl
      · rw [skipped]; rfl
    exact get_setEach_of_unset (fun _ _ => not_isFirst_of_not_settable unsettable _) record
  · intro settings record p unset
    exact get_setEach_of_unset unset record
  · intro earlier name v later record p first last
    rw [get_setEach_of_last first last]
    exact ⟨fun x => FieldType.coerceOrDefault_of_ok, fun e => FieldType.coerceOrDefault_of_error⟩

end Fields

end RecordBinding
