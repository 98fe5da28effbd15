import RecordBinding.Record.Setting
import RecordBinding.Record.Materialize

namespace RecordBinding

/-- A named record type. Rows can be materialized into it only if there is a
record to begin with. -/
structure RecordType where
  name : String
  home : String
  fields : Fields
  construct : Option fields.Instance

namespace RecordType

/-- The type's full name. -/
def path (type : RecordType) : String := type.home ++ "::" ++ type.name

def isConstructible (type : RecordType) : Bool := type.construct.isSome

def schema (type : RecordType) : Schema :=
  (type.fields.declarations.extract type.name type.isConstructible).1

/-- The record of a row. -/
def fromRow? (type : RecordType) (row : Row) : Option (Except Error type.fields.Instance) :=
  type.construct.map fun start => type.fields.bindRow start row

/-- Success is reported, with the number of records. -/
def materializationEvents {α : Type} (type : RecordType) : Except Error (List α) → List Event
  | .ok records => [.rowsMaterialized type.path records.length]
  | .error _ => []

end RecordType

end RecordBinding
