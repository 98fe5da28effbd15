import RecordBinding.Record.RecordType
import RecordBinding.Sample.Records

namespace RecordBinding.ColumnPlan

variable {fields : Fields}

/-- Binding values to slots that were resolved beforehand is binding the row that they
form with their names, column by column. A list that runs out first ends both. -/
theorem bindSlots_eq_bindRow (columns : List String) (values : List Value)
    (record : fields.Instance) :
    bindSlots record (columns.map fields.resolveColumn) values =
      fields.bindRow record (columns.zip values) := by
  induction columns generalizing values record with
  | nil => rfl
  | cons name rest ih =>
    cases values with
    | nil =>
      rw [List.map_cons, List.zip_nil_right]
      cases fields.resolveColumn name <;> rfl
    | cons v others =>
      rw [List.map_cons, List.zip_cons_cons, Fields.bindRow]
      cases fields.resolveColumn name with
      | none => exact ih others record
      | some slot =>
        dsimp only
        rw [bindSlots]
        cases fields.bindColumn slot v record with
        | ok next => exact ih others next
        | error e => rfl

theorem length_ofColumns (columns : List String) : (ofColumns fields columns).length = columns.length :=
  List.length_map fields.resolveColumn

theorem bind_of_even {columns : List String} {values : List Value}
    (even : columns.length = values.length) (start : fields.Instance) :
    (ofColumns fields columns).bind start values = fields.bindRow start (columns.zip values) := by
  rw [bind, if_pos (even.symm.trans (length_ofColumns columns).symm)]
  exact bindSlots_eq_bindRow columns values start

theorem bind_of_uneven {columns : List String} {values : List Value}
    (uneven : columns.length ≠ values.length) (start : fields.Instance) :
    (ofColumns fields columns).bind start values =
      .error (.arity columns.length values.length) := by
  rw [bind, length_ofColumns, if_neg uneven.symm]

/-- A plan binds a row of values as the row would be bound that names each of them by its
column: to the same record, or with the same error at the same column. Too few or too many
values are an error that carries both numbers, and no value is looked at. -/
theorem bind_eq_fromRow? (type : RecordType) (start : type.fields.Instance)
    (constructs : type.construct = some start) (columns : List String) (values : List Value) :
    (columns.length = values.length →
      some ((ofColumns type.fields columns).bind start values) =
        type.fromRow? (columns.zip values)) ∧
    (columns.length ≠ values.length →
      (ofColumns type.fields columns).bind start values =
        .error (.arity columns.length values.length)) := by
  refine ⟨fun even => ?_, fun uneven => bind_of_uneven uneven start⟩
  rw [bind_of_even even, RecordType.fromRow?, constructs]
  rfl

/-- Columns for an inherited identifier, for nothing, and for the identifier again. -/
def repeatedColumns : List String := ["id", "Extra", "ID"]

/-- The second identifier does not convert, and the plan fails as the row does. A fourth
value is too many, convertible or not. -/
theorem childClass_plan_fails_like_row :
    Sample.childClass.construct = some Sample.childFields.default ∧
      some ((ofColumns Sample.childFields repeatedColumns).bind Sample.childFields.default
          [.int .i32 ⟨7, by decide⟩, .null, .string "seven"]) =
        Sample.childClass.fromRow? [("id", .int .i32 ⟨7, by decide⟩), ("Extra", .null),
          ("ID", .string "seven")] ∧
      (ofColumns Sample.childFields repeatedColumns).bind Sample.childFields.default
          [.string "seven", .null, .null, .null] = .error (.arity 3 4) := by
  have constructs : Sample.childClass.construct = some Sample.childFields.default := rfl
  refine ⟨constructs, ?_, ?_⟩
  · exact (bind_eq_fromRow? Sample.childClass _ constructs repeatedColumns _).1 rfl
  · exact (bind_eq_fromRow? Sample.childClass _ constructs repeatedColumns _).2 (by decide)

end RecordBinding.ColumnPlan
