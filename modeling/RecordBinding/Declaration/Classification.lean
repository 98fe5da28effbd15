import RecordBinding.Declaration.TypeExpr
import RecordBinding.Number.IntKind

namespace RecordBinding

/-- What an innermost declared type is taken for. Where a type is not the one that
values store, but another form of it, it is not exact. -/
inductive LeafClass
  | bool
  | int (kind : IntKind)
  | single
  | double
  | decimal
  | char
  | string
  | dateTime
  | dateTimeOffset (exact : Bool)
  | timeSpan (exact : Bool)
  | guid
  | enum
  | other
  deriving DecidableEq

namespace LeafClass

/-- The class of a path type, by its last name. A span is ambiguous without the
module that it comes from, and a moment without the offset it carries. -/
def ofPath (parent : Option String) (name : String) (argument : Option TypeExpr) : LeafClass :=
  match IntKind.ofSpelling? name with
  | some kind => int kind
  | none =>
    match name with
    | "bool" => bool
    | "f32" => single
    | "f64" => double
    | "char" => char
    | "String" => string
    | "Decimal" => decimal
    | "NaiveDateTime" => dateTime
    | "Uuid" => guid
    | "TimeDelta" => timeSpan true
    | "DateTime" =>
      match argument.bind TypeExpr.lastName? with
      | some "FixedOffset" => dateTimeOffset true
      | some "Utc" => dateTimeOffset false
      | _ => other
    | "Duration" =>
      match parent with
      | some "chrono" => timeSpan true
      | some "time" => timeSpan false
      | _ => other
    | _ => other

/-- The variant of a value that holds exactly such a type. -/
def variant? : LeafClass → Option String
  | bool => some "Bool"
  | int kind => some kind.variant
  | single => some "F32"
  | double => some "F64"
  | decimal => some "Decimal"
  | char => some "Char"
  | dateTime => some "DateTime"
  | dateTimeOffset true => some "DateTimeOffset"
  | timeSpan true => some "TimeSpan"
  | guid => some "Guid"
  | _ => none

end LeafClass

/-- A declared type together with what it is taken for at every level. -/
inductive ClassifiedType
  | leaf (type : TypeExpr) (kind : LeafClass)
  | array (type : TypeExpr) (item : ClassifiedType)
  | nullable (type : TypeExpr) (inner : ClassifiedType)

namespace ClassifiedType

/-- The type as it was declared, without redundant grouping around it. -/
def type : ClassifiedType → TypeExpr
  | leaf type _ => type
  | array type _ => type
  | nullable type _ => type

/-- Classification by shape, which never fails. What is marked as enumerated is the
innermost type. -/
def classify (isEnum : Bool) : TypeExpr → ClassifiedType
  | .group elem => classify isEnum elem
  | .paren elem => classify isEnum elem
  | .applied head turbofish argument comma =>
    let type := TypeExpr.applied head turbofish argument comma
    if head.last == "Option" then nullable type (classify isEnum argument)
    else if head.last == "Vec" then array type (classify isEnum argument)
    else if isEnum then leaf type .enum
    else leaf type (.ofPath head.parent head.last (some argument))
  | .path head arguments =>
    leaf (.path head arguments) (if isEnum then .enum else .ofPath head.parent head.last none)
  | t => leaf t (if isEnum then .enum else .other)

/-- The type is, or wraps, one that is not recognized. -/
def containsOther : ClassifiedType → Bool
  | leaf _ kind => kind = .other
  | array _ item => item.containsOther
  | nullable _ inner => inner.containsOther

end ClassifiedType

end RecordBinding
