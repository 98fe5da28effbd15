import RecordBinding.Schema.Basic
import RecordBinding.Schema.Event

namespace RecordBinding

/-- What becomes of a candidate field, given the fields kept before it. -/
inductive Admission
  | first
  | differs
  | shadowed (keeper : FieldDescriptor)

/-- A candidate whose name is taken is still kept if setting by name or binding
from rows is not taken with it: each of the two reaches the first field it
accepts. -/
def admission (kept : List FieldDescriptor) (field : FieldDescriptor) : Admission :=
  match kept.filter (·.isNamed field.name) with
  | [] => .first
  | keeper :: others =>
    let settingTaken := !field.settable || (keeper :: others).any (·.settable)
    let columnTaken := !field.isColumn || (keeper :: others).any (·.isColumn)
    if settingTaken && columnTaken then .shadowed keeper else .differs

/-- The candidates kept after those already kept, and the reports on the way. -/
def keepFields (typeName : String) (kept : List FieldDescriptor) :
    List FieldDescriptor → List FieldDescriptor × List Event
  | [] => (kept, [])
  | field :: rest =>
    match admission kept field with
    | .first => keepFields typeName (kept ++ [field]) rest
    | .differs =>
      let (fields, events) := keepFields typeName (kept ++ [field]) rest
      (fields, .bindsDifferently typeName field.name field.declaredIn :: events)
    | .shadowed keeper =>
      let (fields, events) := keepFields typeName kept rest
      (fields, .shadowed typeName field.name field.declaredIn keeper.declaredIn :: events)

/-- The schema of a type from its candidate fields. Nothing makes it fail. -/
def Schema.ofCandidates (typeName : String) (constructible : Bool)
    (candidates : List FieldDescriptor) : Schema × List Event :=
  let (fields, events) := keepFields typeName [] candidates
  (⟨typeName, constructible, fields⟩,
    events ++ [.schemaBuilt typeName fields.length constructible])

/-- The declared fields of a record type. A flattened field brings the
declarations of its own type. -/
inductive Declarations
  | nil
  | field (descriptor : FieldDescriptor) (rest : Declarations)
  | flatten (typeName : String) (constructible : Bool) (inner : Declarations) (rest : Declarations)

namespace Declarations

/-- Candidate fields in order. A flattened type contributes the fields of its own
schema. That is extracted afresh at each use and reports each time, whereas a
schema that is kept for later uses has the same fields and has already reported. -/
def candidates (typeName : String) : Declarations → List FieldDescriptor × List Event
  | nil => ([], [])
  | field descriptor rest =>
    let (fields, events) := candidates typeName rest
    ({ descriptor with declaredIn := typeName } :: fields, events)
  | flatten innerName constructible inner rest =>
    let (innerFields, innerEvents) := candidates innerName inner
    let (schema, built) := Schema.ofCandidates innerName constructible innerFields
    let (fields, events) := candidates typeName rest
    (schema.fields ++ fields, innerEvents ++ built ++ events)

/-- The schema of a record type, and the reports made while building it. -/
def extract (typeName : String) (constructible : Bool) (declared : Declarations) :
    Schema × List Event :=
  let (fields, events) := declared.candidates typeName
  let (schema, built) := Schema.ofCandidates typeName constructible fields
  (schema, events ++ built)

end Declarations

end RecordBinding
