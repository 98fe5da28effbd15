import RecordBinding.Field.Category
import RecordBinding.Text.Folding

namespace RecordBinding

/-- One bindable field of a record type. -/
structure FieldDescriptor where
  name : String
  ident : String
  category : Category
  settable : Bool
  readable : Bool
  declaredIn : String
  deriving DecidableEq

/-- A column is assigned from rows, so it must be both settable and readable. -/
def FieldDescriptor.isColumn (field : FieldDescriptor) : Bool := field.settable && field.readable

def FieldDescriptor.isNamed (field : FieldDescriptor) (name : String) : Bool :=
  eqIgnoreCase field.name name

/-- The fields that a record type binds, in declaration order, those of
flattened types in the place of the flattening field. -/
structure Schema where
  typeName : String
  constructible : Bool
  fields : List FieldDescriptor

namespace Schema

/-- The first field with a name, ignoring case. -/
def field? (schema : Schema) (name : String) : Option FieldDescriptor :=
  schema.fields.find? (·.isNamed name)

/-- The accepted fields that share their name with no earlier accepted one, of
which some are already passed. -/
def firstOfName (accepts : FieldDescriptor → Bool) (passed : List FieldDescriptor) :
    List FieldDescriptor → List FieldDescriptor
  | [] => []
  | field :: rest =>
    let later := firstOfName accepts (passed ++ [field]) rest
    if accepts field && !passed.any (fun earlier => accepts earlier && earlier.isNamed field.name) then
      field :: later
    else later

/-- Fields that can be set by name. -/
def settableFields (schema : Schema) : List FieldDescriptor :=
  firstOfName (·.settable) [] schema.fields

/-- Fields that are bound from a row's columns. -/
def columnFields (schema : Schema) : List FieldDescriptor :=
  firstOfName (·.isColumn) [] schema.fields

end Schema

end RecordBinding
