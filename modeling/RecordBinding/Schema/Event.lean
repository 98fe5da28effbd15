namespace RecordBinding

/-- What the library reports about its work. -/
inductive Event
  | shadowed (typeName field declaredIn shadowedBy : String)
  | bindsDifferently (typeName field declaredIn : String)
  | schemaBuilt (typeName : String) (fields : Nat) (constructible : Bool)
  | rowsMaterialized (typeName : String) (rows : Nat)
  deriving DecidableEq

/-- A reported detail. -/
inductive Detail
  | text (s : String)
  | count (n : Nat)
  | flag (b : Bool)

namespace Event

/-- Only a field that no name reaches is worth a warning. -/
def level : Event → String
  | shadowed .. => "WARN"
  | _ => "DEBUG"

def message : Event → String
  | shadowed .. => "field is shadowed by an earlier field with the same name"
  | bindsDifferently .. => "field shares its name with an earlier field that binds differently"
  | schemaBuilt .. => "built row mapping schema"
  | rowsMaterialized .. => "materialized rows"

def details : Event → List (String × Detail)
  | shadowed typeName field declaredIn shadowedBy =>
    [("type_name", .text typeName), ("field", .text field), ("declared_in", .text declaredIn),
      ("shadowed_by", .text shadowedBy)]
  | bindsDifferently typeName field declaredIn =>
    [("type_name", .text typeName), ("field", .text field), ("declared_in", .text declaredIn)]
  | schemaBuilt typeName fields constructible =>
    [("type_name", .text typeName), ("fields", .count fields),
      ("constructible", .flag constructible)]
  | rowsMaterialized typeName rows => [("type_name", .text typeName), ("rows", .count rows)]

end Event

end RecordBinding
