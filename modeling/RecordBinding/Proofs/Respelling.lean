import Mathlib.Data.List.Forall2
import RecordBinding.Proofs.CaseFolding
import RecordBinding.Proofs.Slots
import RecordBinding.Sample.Records

namespace RecordBinding

namespace Fields

/-- A leaf that answers to a name answers to all names that are matched with it. -/
theorem Position.answers_respelt {a b : String} (same : eqIgnoreCase a b = true) {fields : Fields}
    (role : Role) (p : Position fields) : p.answers role a = p.answers role b := by
  rw [answers, answers, eqIgnoreCase_congr same]

theorem reached?_respelt {a b : String} (same : eqIgnoreCase a b = true) (fields : Fields)
    (role : Role) : fields.reached? role a = fields.reached? role b := by
  have alike : (fun p : Position fields => p.answers role a) = (·.answers role b) :=
    funext (Position.answers_respelt same role)
  rw [reached?, reached?, alike]

theorem setField_respelt {a b : String} (same : eqIgnoreCase a b = true) (fields : Fields)
    (v : Value) (record : fields.Instance) :
    fields.setField a v record = fields.setField b v record := by
  rw [setField_eq, setField_eq, reached?_respelt same]

theorem resolveColumn_respelt {a b : String} (same : eqIgnoreCase a b = true) (fields : Fields) :
    fields.resolveColumn a = fields.resolveColumn b := by
  have alike : (fun p : Position fields => p.isNamed a) = (·.isNamed b) :=
    funext fun p => eqIgnoreCase_congr same p.leaf.name
  rw [resolveColumn_eq, resolveColumn_eq, alike]

end Fields

theorem Schema.field?_respelt {a b : String} (same : eqIgnoreCase a b = true) (schema : Schema) :
    schema.field? a = schema.field? b := by
  have alike : (fun field : FieldDescriptor => field.isNamed a) = (·.isNamed b) :=
    funext fun field => eqIgnoreCase_congr_right same field.name
  rw [field?, field?, alike]

namespace Row

theorem get?_respelt {a b : String} (same : eqIgnoreCase a b = true) (row : Row) :
    row.get? a = row.get? b := by
  have alike : (fun column : String × Value => eqIgnoreCase column.1 a) =
      fun column => eqIgnoreCase column.1 b :=
    funext fun column => eqIgnoreCase_congr_right same column.1
  rw [get?, get?, alike]

/-- The same values in the same order, under names that are matched one by one. -/
def Respells : Row → Row → Prop :=
  List.Forall₂ fun column other => eqIgnoreCase column.1 other.1 = true ∧ column.2 = other.2

end Row

theorem Fields.bindRow_respelt {fields : Fields} {row other : Row} (alike : row.Respells other)
    (record : fields.Instance) : fields.bindRow record row = fields.bindRow record other := by
  induction alike generalizing record with
  | nil => rfl
  | @cons column respelt _ _ here _ ih =>
    obtain ⟨name, v⟩ := column
    obtain ⟨otherName, otherValue⟩ := respelt
    obtain ⟨sameName, sameValue⟩ := here
    dsimp only at sameName sameValue
    subst otherValue
    rw [bindRow, bindRow, resolveColumn_respelt sameName]
    cases fields.resolveColumn otherName with
    | none => exact ih record
    | some slot =>
      dsimp only
      cases fields.bindColumn slot v record with
      | error e => rfl
      | ok next => exact ih next

theorem RecordType.fromRow?_respelt {row other : Row} (alike : row.Respells other)
    (type : RecordType) : type.fromRow? row = type.fromRow? other := by
  have same : (fun start => type.fields.bindRow start row) =
      fun start => type.fields.bindRow start other :=
    funext (Fields.bindRow_respelt alike)
  rw [fromRow?, fromRow?, same]

theorem ColumnPlan.ofColumns_respelt {columns others : List String}
    (alike : List.Forall₂ (fun name other => eqIgnoreCase name other = true) columns others)
    (fields : Fields) : ofColumns fields columns = ofColumns fields others := by
  refine congrArg ColumnPlan.mk ?_
  induction alike with
  | nil => rfl
  | cons here _ ih => rw [List.map_cons, List.map_cons, ih, Fields.resolveColumn_respelt here]

/-- A name with one spelling replaced by another. -/
def replaceSpelling (a b name : String) : String := if name = a then b else name

theorem eqIgnoreCase_replaceSpelling {a b : String} (same : eqIgnoreCase a b = true)
    (name : String) : eqIgnoreCase name (replaceSpelling a b name) = true := by
  unfold replaceSpelling
  split
  · rename_i replaced
    rw [replaced, same]
  · exact eqIgnoreCase_refl name

/-- Names that differ in case alone are one name everywhere: to set a field, to resolve a
column, and to look up a field of a schema or a value of a row. So a row binds in the same
way, and a plan is the same, however the columns are spelled, be it one spelling replaced
by another or each column in its own way. -/
theorem matched_names_interchangeable {a b : String} (same : eqIgnoreCase a b = true) :
    (∀ (fields : Fields) v record, fields.setField a v record = fields.setField b v record) ∧
    (∀ fields : Fields, fields.resolveColumn a = fields.resolveColumn b) ∧
    (∀ schema : Schema, schema.field? a = schema.field? b) ∧
    (∀ row : Row, row.get? a = row.get? b) ∧
    (∀ (type : RecordType) row,
      type.fromRow? (row.map fun column => (replaceSpelling a b column.1, column.2)) =
        type.fromRow? row) ∧
    (∀ (fields : Fields) columns,
      ColumnPlan.ofColumns fields (columns.map (replaceSpelling a b)) =
        ColumnPlan.ofColumns fields columns) ∧
    (∀ (type : RecordType) row other, Row.Respells row other →
      type.fromRow? row = type.fromRow? other) ∧
    ∀ (fields : Fields) columns others,
      List.Forall₂ (fun name other => eqIgnoreCase name other = true) columns others →
        ColumnPlan.ofColumns fields columns = ColumnPlan.ofColumns fields others := by
  refine ⟨Fields.setField_respelt same, Fields.resolveColumn_respelt same,
    Schema.field?_respelt same, Row.get?_respelt same, ?_, ?_,
    fun type _ _ alike => type.fromRow?_respelt alike,
    fun fields _ _ alike => ColumnPlan.ofColumns_respelt alike fields⟩
  · intro type row
    refine (type.fromRow?_respelt ?_).symm
    refine List.forall₂_map_right_iff.2 (List.forall₂_same.2 fun column _ => ?_)
    exact ⟨eqIgnoreCase_replaceSpelling same column.1, rfl⟩
  · intro fields columns
    refine (ColumnPlan.ofColumns_respelt ?_ fields).symm
    refine List.forall₂_map_right_iff.2 (List.forall₂_same.2 fun name _ => ?_)
    exact eqIgnoreCase_replaceSpelling same name

/-- The sign for kelvin is matched with the letter k, in ASCII or not, and finds the same
field. -/
theorem kelvin_interchangeable :
    eqIgnoreCase "KELVIN" "\u212aelvin" = true ∧
      Sample.named.fields.resolveColumn "KELVIN" =
        Sample.named.fields.resolveColumn "\u212aelvin" ∧
      Sample.named.fromRow? [("\u212aelvin", .int .i32 ⟨4, by decide⟩), ("id", .null)] =
        Sample.named.fromRow? [("KELVIN", .int .i32 ⟨4, by decide⟩), ("id", .null)] := by
  have same : eqIgnoreCase "KELVIN" "\u212aelvin" = true := by decide
  obtain ⟨_, resolve, _, _, replaced, _⟩ := matched_names_interchangeable same
  exact ⟨same, resolve Sample.named.fields, replaced Sample.named [("KELVIN", _), ("id", _)]⟩

end RecordBinding
