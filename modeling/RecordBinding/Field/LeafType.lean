import RecordBinding.Field.EnumType
import RecordBinding.Value.Scalar

namespace RecordBinding

/-- A type outside the library that can be read from any value. What it reads is
kept as the value that represents it. -/
structure CustomType where
  name : String
  home : String
  default : Value
  convert : Value → Except Error Value

/-- The types of fields that are neither optional nor arrays. -/
inductive LeafType
  | bool
  | int (kind : IntKind)
  | single
  | double
  | decimal
  | char
  | string
  | dateTime
  | dateTimeOffset
  | utc
  | timeSpan
  | duration
  | guid
  | value
  | enum (home : String) (type : EnumType)
  | custom (type : CustomType)

namespace LeafType

/-- What a field of the type holds. -/
@[reducible] def Carrier : LeafType → Type
  | bool => Bool
  | int kind => kind.Number
  | single => Single
  | double => Double
  | decimal => Decimal
  | char => Char
  | string => String
  | dateTime => DateTime
  | dateTimeOffset => OffsetDateTime
  | utc => DateTime
  | timeSpan => TimeSpan
  | duration => Duration
  | guid => Guid
  | value => Value
  | enum _ type => type.Member
  | custom _ => Value

/-- The type's name in the messages of failed conversions. -/
def name : LeafType → String
  | bool => "bool"
  | int kind => kind.spelling
  | single => "f32"
  | double => "f64"
  | decimal => "Decimal"
  | char => "char"
  | string => "String"
  | dateTime => "NaiveDateTime"
  | dateTimeOffset => "DateTime<FixedOffset>"
  | utc => "DateTime<Utc>"
  | timeSpan => "TimeDelta"
  | duration => "std::time::Duration"
  | guid => "Uuid"
  | value => "Value"
  | enum _ type => type.name
  | custom type => type.name

/-- The type's full name, with the modules it is declared in. -/
def path : LeafType → String
  | bool => "bool"
  | int kind => kind.spelling
  | single => "f32"
  | double => "f64"
  | decimal => "rust_decimal::decimal::Decimal"
  | char => "char"
  | string => "alloc::string::String"
  | dateTime => "chrono::naive::datetime::NaiveDateTime"
  | dateTimeOffset => "chrono::datetime::DateTime<chrono::offset::fixed::FixedOffset>"
  | utc => "chrono::datetime::DateTime<chrono::offset::utc::Utc>"
  | timeSpan => "chrono::time_delta::TimeDelta"
  | duration => "core::time::Duration"
  | guid => "uuid::Uuid"
  | value => "rowmap_core::value::Value"
  | enum home type => home ++ "::" ++ type.name
  | custom type => type.home ++ "::" ++ type.name

/-- What a field holds when it is reset, or when nothing has been said of it. -/
def default : (t : LeafType) → t.Carrier
  | bool => false
  | int kind => kind.zero
  | single => .zero .single
  | double => .zero .double
  | decimal => .zero
  | char => Char.ofNat 0
  | string => ""
  | dateTime => .epoch
  | dateTimeOffset => ⟨.epoch, 0⟩
  | utc => .epoch
  | timeSpan => .zero
  | duration => .zero
  | guid => .nil
  | value => .null
  | enum _ type => type.zero
  | custom type => type.default

/-- Types of which the library does not know what they hold exactly. Their
arrays are converted item by item. -/
def isOther : LeafType → Bool
  | value => true
  | custom _ => true
  | _ => false

/-- The value that holds a datum of the type. -/
def toValue : (t : LeafType) → t.Carrier → Value
  | bool, b => .bool b
  | int kind, n => .int kind n
  | single, x => .single x
  | double, x => .double x
  | decimal, d => .decimal d
  | char, c => .char c
  | string, s => .string s
  | dateTime, t => .dateTime t
  | dateTimeOffset, t => .dateTimeOffset t
  | utc, t => .dateTimeOffset ⟨t, 0⟩
  | timeSpan, t => .timeSpan t
  | duration, d => .timeSpan (.ofDuration d)
  | guid, id => .guid id
  | value, v => v
  | enum _ _, m => .enum m.tag
  | custom _, v => v

def ofScalar : ScalarType → LeafType
  | .bool => bool
  | .char => char
  | .decimal => decimal
  | .single => single
  | .double => double
  | .int kind => int kind

/-- A conversion that may not exist, failing with the value it was tried on. -/
def orRefuse {α : Type} (t : LeafType) (v : Value) : Option α → Except Error α
  | some x => .ok x
  | none => .error (.conversion v t.name)

theorem orRefuse_eq_ok_iff {α : Type} {t : LeafType} {v : Value} {found : Option α} {x : α} :
    t.orRefuse v found = .ok x ↔ found = some x := by
  cases found with
  | some y => rw [orRefuse, Except.ok.injEq, Option.some.injEq]
  | none => exact iff_of_false nofun nofun

theorem orRefuse_eq_error_iff {α : Type} {t : LeafType} {v : Value} {found : Option α}
    {reason : Error} :
    t.orRefuse v found = .error reason ↔ found = none ∧ reason = .conversion v t.name := by
  cases found with
  | some x => exact iff_of_false nofun nofun
  | none => rw [orRefuse, Except.error.injEq, eq_comm, and_iff_right rfl]

/-- The general conversion of a value to the type. -/
def tryFrom : (t : LeafType) → Value → Except Error t.Carrier
  | bool, v => orRefuse .bool v v.toBool?
  | int kind, v => orRefuse (.int kind) v (v.toInt? kind)
  | single, v => orRefuse .single v v.toSingle?
  | double, v => orRefuse .double v v.toDouble?
  | decimal, v => orRefuse .decimal v v.toDecimal?
  | char, v => orRefuse .char v v.toChar?
  | string, v => orRefuse .string v v.text?
  | dateTime, .dateTime t => .ok t
  | dateTime, v => .error (.conversion v (name .dateTime))
  | dateTimeOffset, .dateTimeOffset t => .ok t
  | dateTimeOffset, v => .error (.conversion v (name .dateTimeOffset))
  | utc, .dateTimeOffset t => .ok t.instant
  | utc, v => .error (.conversion v (name .utc))
  | timeSpan, .timeSpan t => .ok t
  | timeSpan, v => .error (.conversion v (name .timeSpan))
  | duration, .timeSpan t => orRefuse .duration (.timeSpan t) t.toDuration?
  | duration, v => .error (.conversion v (name .duration))
  | guid, .guid id => .ok id
  | guid, v => .error (.conversion v (name .guid))
  | value, v => .ok v
  | enum _ type, v => type.tryFrom v
  | custom type, v => type.convert v

/-- The datum of a value in the variant that stores this very type. -/
def stored? : (t : LeafType) → Value → Option t.Carrier
  | bool, .bool b => some b
  | int kind, .int other n => if same : other = kind then some (same ▸ n) else none
  | single, .single x => some x
  | double, .double x => some x
  | decimal, .decimal d => some d
  | char, .char c => some c
  | dateTime, .dateTime t => some t
  | dateTimeOffset, .dateTimeOffset t => some t
  | timeSpan, .timeSpan t => some t
  | guid, .guid id => some id
  | _, _ => none

end LeafType

end RecordBinding
