import RecordBinding.Field.LeafType

namespace RecordBinding

/-- The types of fields: a leaf type under any number of options and arrays. -/
inductive FieldType
  | leaf (type : LeafType)
  | array (item : FieldType)
  | option (inner : FieldType)

namespace FieldType

/-- What a field of the type holds. -/
@[reducible] def Carrier : FieldType → Type
  | leaf type => type.Carrier
  | array item => List item.Carrier
  | option inner => Option inner.Carrier

/-- The type's full name. -/
def path : FieldType → String
  | leaf type => type.path
  | array item => "alloc::vec::Vec<" ++ item.path ++ ">"
  | option inner => "core::option::Option<" ++ inner.path ++ ">"

def default : (t : FieldType) → t.Carrier
  | leaf type => type.default
  | array _ => []
  | option _ => none

/-- The type is, or wraps, a leaf type that the library does not know. -/
def containsOther : FieldType → Bool
  | leaf type => type.isOther
  | array item => item.containsOther
  | option inner => inner.containsOther

/-- The value that holds a datum: nothing becomes null and an array a list. -/
def toValue : (t : FieldType) → t.Carrier → Value
  | leaf type, x => type.toValue x
  | array item, xs => .list (xs.map (toValue item))
  | option _, none => .null
  | option inner, some x => toValue inner x

end FieldType

end RecordBinding
