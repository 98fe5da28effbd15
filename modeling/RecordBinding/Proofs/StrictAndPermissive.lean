import RecordBinding.Proofs.RowBinding
import RecordBinding.Proofs.SettingByName

namespace RecordBinding.Fields

open Position

theorem receives_iff_isFirst {fields : Fields} {p : Position fields} {name : String} :
    p.Receives name ↔ p.IsFirst .column name :=
  receives_iff_reached.trans reached?_eq_some_iff

/-- A row that binds leaves the record that its columns leave when they are set by name in
row order, provided each name goes to the same leaf either way, or to none. -/
theorem setEach_of_bindRow {fields : Fields} {record after : fields.Instance} {row : Row}
    (eitherWay : ∀ column ∈ row, ∀ p : Position fields,
      p.IsFirst .setting column.1 ↔ p.IsFirst .column column.1)
    (bound : fields.bindRow record row = .ok after) : fields.setEach record row = after := by
  induction row generalizing record with
  | nil => exact Except.ok.inj bound
  | cons column rest ih =>
    obtain ⟨name, v⟩ := column
    obtain ⟨here, later⟩ := List.forall_mem_cons.1 eitherWay
    rw [setEach]
    rcases bindRow_cons_cases bound with ⟨unresolved, boundRest⟩ | ⟨p, x, receives, converts, boundRest⟩
    · have nowhere : fields.setByName name v record = record := by
        refine ext_get fun p => get_setByName_of_not_first (fun first => ?_) v record
        exact not_receives_of_unresolved unresolved p (receives_iff_isFirst.2 ((here p).1 first))
      rw [nowhere]
      exact ih later boundRest
    · have first := (here p).2 (receives_iff_isFirst.1 receives)
      rw [setByName_of_isFirst first, FieldType.coerceOrDefault_of_ok converts]
      exact ih later boundRest

/-- A name whose first settable leaf and first column leaf are one leaf. A value that the
leaf takes strictly is set by name to the same effect. A value that it does not take leaves
the record alone when it is bound, and resets this leaf, and no other, when it is set. -/
theorem setByName_agrees_with_bindColumn {fields : Fields} {name : String} {p : Position fields}
    (setting : p.IsFirst .setting name) (column : p.IsFirst .column name) :
    ∃ slot, fields.resolveColumn name = some slot ∧ ∀ v record,
      (∀ after, fields.bindColumn slot v record = .ok after →
        (fields.bindInPlace slot v record).1 = after ∧
          fields.setByName name v record = after) ∧
      (∀ e, fields.bindColumn slot v record = .error e →
        (fields.bindInPlace slot v record).1 = record ∧
          p.Assigns p.leaf.type.default record (fields.setByName name v record)) := by
  obtain ⟨slot, resolved, owned⟩ := receives_iff_isFirst.2 column
  refine ⟨slot, resolved, fun v record => ?_⟩
  have set := setByName_of_isFirst setting v record
  cases outcome : p.leaf.type.coerce v with
  | ok x =>
    have bound := bindColumn_of_ok owned outcome record
    rw [FieldType.coerceOrDefault_of_ok outcome] at set
    rw [bindInPlace_of_ok owned outcome record]
    constructor
    · intro after strict
      cases bound.symm.trans strict
      exact ⟨rfl, set⟩
    · intro e strict
      cases bound.symm.trans strict
  | error cause =>
    have bound := bindColumn_of_error owned outcome record
    rw [FieldType.coerceOrDefault_of_error outcome] at set
    rw [bindInPlace_of_error owned outcome record, set]
    constructor
    · intro after strict
      cases bound.symm.trans strict
    · intro e _
      exact ⟨rfl, p.assigns_set _ record⟩

/-- The inherited identifier of a grandchild, which hides the one declared there. -/
def inheritedId : Position Sample.grandChild.fields := later (inside (inside here))

/-- A number sets and binds the inherited identifier alike. A text is refused by the one
way, and by the other resets the identifier and leaves the score. -/
theorem inheritedId_agrees :
    inheritedId.IsFirst .setting "iD" ∧ inheritedId.IsFirst .column "iD" ∧
      (∃ after, Sample.grandChild.fields.bindColumn 1 (.int .u8 ⟨7, by decide⟩)
          Sample.grandChild.fields.default = .ok after ∧
        Sample.grandChild.fields.setByName "iD" (.int .u8 ⟨7, by decide⟩)
          Sample.grandChild.fields.default = after) ∧
      ∃ e, Sample.grandChild.fields.bindColumn 1 (.string "seven")
          Sample.grandChild.fields.default = .error e ∧
        inheritedId.Assigns inheritedId.leaf.type.default Sample.grandChild.fields.default
          (Sample.grandChild.fields.setByName "iD" (.string "seven")
            Sample.grandChild.fields.default) := by
  have setting : inheritedId.IsFirst .setting "iD" := isFirst_of_reached? (by decide)
  have column : inheritedId.IsFirst .column "iD" := isFirst_of_reached? (by decide)
  obtain ⟨slot, resolved, agree⟩ := setByName_agrees_with_bindColumn setting column
  obtain rfl : slot = 1 := Option.some.inj (resolved.symm.trans (by decide))
  refine ⟨setting, column, ?_, ?_⟩
  · obtain ⟨after, bound⟩ : ∃ after, Sample.grandChild.fields.bindColumn 1
        (.int .u8 ⟨7, by decide⟩) Sample.grandChild.fields.default = .ok after := ⟨_, rfl⟩
    exact ⟨after, bound, ((agree _ _).1 after bound).2⟩
  · obtain ⟨e, refused⟩ : ∃ e, Sample.grandChild.fields.bindColumn 1
        (.string "seven") Sample.grandChild.fields.default = .error e := ⟨_, rfl⟩
    exact ⟨e, refused, ((agree _ _).2 e refused).2⟩

end RecordBinding.Fields
