import RecordBinding.Field.Coercion
import RecordBinding.Schema.Extract

namespace RecordBinding

/-- Which ways of binding reach a field. A skipped field is part of the record
only. -/
inductive Access
  | both | readOnly | writeOnly | skipped
  deriving DecidableEq, Repr

namespace Access

/-- The field is set by name. -/
def isSettable : Access → Bool
  | both | writeOnly => true
  | readOnly | skipped => false

/-- The field is bound from a row's columns. -/
def isColumn : Access → Bool
  | both => true
  | readOnly | writeOnly | skipped => false

end Access

/-- A field that holds a datum of its own. -/
structure Leaf where
  name : String
  ident : String
  type : FieldType
  access : Access

/-- The fields of a record type in declaration order. A flattened field holds a
whole record, whose fields are bound as if they stood in its place. -/
inductive Fields
  | nil
  | leaf (field : Leaf) (rest : Fields)
  | flatten (ident : String) (typeName : String) (inner : Fields) (rest : Fields)

namespace Fields

/-- The data of one record. -/
@[reducible] def Instance : Fields → Type
  | nil => Unit
  | leaf field rest => field.type.Carrier × rest.Instance
  | flatten _ _ inner rest => inner.Instance × rest.Instance

/-- The record with the default in every field. -/
def default : (fields : Fields) → fields.Instance
  | nil => ()
  | leaf field rest => (field.type.default, rest.default)
  | flatten _ _ inner rest => (inner.default, rest.default)

/-- What the type declares to its schema. Whether flattened types can be
constructed does not matter to the fields they contribute. -/
def declarations : Fields → Declarations
  | nil => .nil
  | leaf field rest =>
    match field.access with
    | .skipped => rest.declarations
    | access => .field
        { name := field.name, ident := field.ident, category := field.type.category
          settable := access != .readOnly, readable := access != .writeOnly, declaredIn := "" }
        rest.declarations
  | flatten _ typeName inner rest =>
    .flatten typeName true inner.declarations rest.declarations

end Fields

end RecordBinding
