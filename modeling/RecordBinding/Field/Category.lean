import RecordBinding.Field.FieldType

namespace RecordBinding

/-- How a field's declared type is classified, for callers that inspect what a
record type binds. -/
inductive Category
  | bool
  | int (kind : IntKind)
  | single
  | double
  | decimal
  | char
  | string
  | dateTime
  | dateTimeOffset
  | timeSpan
  | guid
  | enum (name : String) (repr : IntKind)
  | array (item : Category)
  | nullable (inner : Category)
  | other (written : String)
  deriving DecidableEq

namespace Category

def isNullable : Category → Bool
  | nullable _ => true
  | _ => false

/-- The category with all leading options taken off. -/
def nonNullable : Category → Category
  | nullable inner => inner.nonNullable
  | category => category

/-- Signedness, where an integer type is involved directly. -/
def isSigned? : Category → Option Bool
  | int kind => some kind.isSigned
  | enum _ repr => some repr.isSigned
  | _ => none

def display : Category → String
  | bool => "bool"
  | int kind => kind.spelling
  | single => "f32"
  | double => "f64"
  | decimal => "Decimal"
  | char => "char"
  | string => "String"
  | dateTime => "DateTime"
  | dateTimeOffset => "DateTimeOffset"
  | timeSpan => "TimeSpan"
  | guid => "Guid"
  | enum name repr => s!"enum {name}({repr.spelling})"
  | array item => "[" ++ item.display ++ "]"
  | nullable inner => inner.display ++ "?"
  | other written => written

end Category

/-- Moments and spans of either representation share a category. -/
def LeafType.category : LeafType → Category
  | bool => .bool
  | int kind => .int kind
  | single => .single
  | double => .double
  | decimal => .decimal
  | char => .char
  | string => .string
  | dateTime => .dateTime
  | dateTimeOffset => .dateTimeOffset
  | utc => .dateTimeOffset
  | timeSpan => .timeSpan
  | duration => .timeSpan
  | guid => .guid
  | value => .other "Value"
  | enum _ type => .enum type.name type.repr
  | custom type => .other type.name

def FieldType.category : FieldType → Category
  | leaf type => type.category
  | array item => .array item.category
  | option inner => .nullable inner.category

end RecordBinding
