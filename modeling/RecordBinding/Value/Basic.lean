import RecordBinding.Number.IntKind
import RecordBinding.Number.Decimal
import RecordBinding.Time.Span
import RecordBinding.Value.Guid

namespace RecordBinding

/-- A value of an enumerated type: the type's name and the variant's number. -/
structure EnumTag where
  type : String
  ordinal : Int
  deriving DecidableEq

/-- A dynamically typed scalar, as carried by a row's column. -/
inductive Value
  | null
  | bool (b : Bool)
  | int (kind : IntKind) (n : kind.Number)
  | single (x : Single)
  | double (x : Double)
  | decimal (d : Decimal)
  | char (c : Char)
  | string (s : String)
  | bytes (bs : List UInt8)
  | dateTime (t : DateTime)
  | dateTimeOffset (t : OffsetDateTime)
  | timeSpan (t : TimeSpan)
  | guid (id : Guid)
  | enum (tag : EnumTag)
  | list (items : List Value)

namespace Value

instance : Inhabited Value := ⟨.null⟩

/-- The name of the variant that holds the value. -/
def variant : Value → String
  | null => "Null"
  | bool _ => "Bool"
  | int kind _ => kind.variant
  | single _ => "F32"
  | double _ => "F64"
  | decimal _ => "Decimal"
  | char _ => "Char"
  | string _ => "String"
  | bytes _ => "Bytes"
  | dateTime _ => "DateTime"
  | dateTimeOffset _ => "DateTimeOffset"
  | timeSpan _ => "TimeSpan"
  | guid _ => "Guid"
  | enum _ => "Enum"
  | list _ => "List"

def isNull : Value → Bool
  | null => true
  | _ => false

def isList : Value → Bool
  | list _ => true
  | _ => false

def text? : Value → Option String
  | string s => some s
  | _ => none

/-- One byte of a buffer as a value of its own. -/
def byte (b : UInt8) : Value := .int .u8 ⟨b.toNat, by
  have := b.toNat_lt
  constructor
  · exact Int.natCast_nonneg _
  · show ((b.toNat : Nat) : Int) ≤ 255
    omega⟩

/-- The value, and what is left in its place. -/
def take (v : Value) : Value × Value := (v, .null)

mutual

/-- Values of different variants differ. Within one variant numbers compare as
numbers and moments as instants. -/
def equals : Value → Value → Bool
  | null, null => true
  | bool a, bool b => a == b
  | int k a, int l b => k == l && a.val == b.val
  | single a, single b => a.equals b
  | double a, double b => a.equals b
  | decimal a, decimal b => a.equals b
  | char a, char b => a == b
  | string a, string b => a == b
  | bytes a, bytes b => a == b
  | dateTime a, dateTime b => a == b
  | dateTimeOffset a, dateTimeOffset b => a.instant == b.instant
  | timeSpan a, timeSpan b => a == b
  | guid a, guid b => a == b
  | enum a, enum b => a == b
  | list a, list b => allEqual a b
  | _, _ => false

/-- Equality item by item. -/
def allEqual : List Value → List Value → Bool
  | [], [] => true
  | a :: as, b :: bs => equals a b && allEqual as bs
  | _, _ => false

end

end Value

end RecordBinding
