import RecordBinding.Record.Fields

namespace RecordBinding.Fields

/-- The permissive way to assign: the first settable field with the name takes
the value, or its default if the value does not convert. When no field has the
name the value is handed back. A flattened record is asked in its field's place
and hands the value on if it has no use for it. -/
def setField : (fields : Fields) → String → Value → fields.Instance → fields.Instance × Option Value
  | nil, _, v, record => (record, some v)
  | leaf field rest, name, v, (x, others) =>
    if field.access.isSettable && eqIgnoreCase name field.name then
      ((field.type.coerceOrDefault v, others), none)
    else
      let (others, back) := rest.setField name v others
      ((x, others), back)
  | flatten _ _ inner rest, name, v, (record, others) =>
    match inner.setField name v record with
    | (record, none) => ((record, others), none)
    | (record, some v) =>
      let (others, back) := rest.setField name v others
      ((record, others), back)

/-- Setting a field when it does not matter whether there is one. -/
def setByName (fields : Fields) (name : String) (v : Value) (record : fields.Instance) :
    fields.Instance :=
  (fields.setField name v record).1

end RecordBinding.Fields
