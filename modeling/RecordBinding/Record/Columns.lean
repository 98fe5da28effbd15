import RecordBinding.Record.Fields

namespace RecordBinding.Fields

/-- Number of column slots. A flattened record takes as many as it has itself. -/
def columns : Fields → Nat
  | nil => 0
  | leaf field rest => (if field.access.isColumn then 1 else 0) + rest.columns
  | flatten _ _ inner rest => inner.columns + rest.columns

/-- The slot of the first column with a name, the slots before these fields
being taken. -/
def resolveFrom (start : Nat) : Fields → String → Option Nat
  | nil, _ => none
  | leaf field rest, name =>
    if field.access.isColumn then
      if eqIgnoreCase name field.name then some start else resolveFrom (start + 1) rest name
    else resolveFrom start rest name
  | flatten _ _ inner rest, name =>
    match resolveFrom 0 inner name with
    | some slot => some (start + slot)
    | none => resolveFrom (start + inner.columns) rest name

/-- The slot that a column name binds. -/
def resolveColumn (fields : Fields) (name : String) : Option Nat := fields.resolveFrom 0 name

/-- The strict way to assign: the field that owns the slot takes the value, or
the binding fails and names the field. A flattened record owns a stretch of
slots and counts them from its own start. -/
def bindFrom (start : Nat) : (fields : Fields) → Nat → Value → fields.Instance →
    Except Error fields.Instance
  | nil, _, _, record => .ok record
  | leaf field rest, slot, v, (x, others) =>
    if field.access.isColumn then
      if slot = start then
        match field.type.coerce v with
        | .ok y => .ok (y, others)
        | .error e => .error (e.within (.column field.name))
      else (bindFrom (start + 1) rest slot v others).map ((x, ·))
    else (bindFrom start rest slot v others).map ((x, ·))
  | flatten _ _ inner rest, slot, v, (record, others) =>
    if start ≤ slot ∧ slot < start + inner.columns then
      (bindFrom 0 inner (slot - start) v record).map ((·, others))
    else (bindFrom (start + inner.columns) rest slot v others).map ((record, ·))

/-- Binding a value to a slot. Slots that no field owns are ignored. -/
def bindColumn (fields : Fields) (slot : Nat) (v : Value) (record : fields.Instance) :
    Except Error fields.Instance :=
  fields.bindFrom 0 slot v record

end RecordBinding.Fields
