import RecordBinding.Value.Basic

namespace RecordBinding

/-- The types of truth values, characters and numbers. There is a variant of values for each, and a
test whether a value holds a datum of it. -/
inductive ScalarType
  | bool
  | char
  | decimal
  | single
  | double
  | int (kind : IntKind)
  deriving DecidableEq

namespace ScalarType

def all : List ScalarType := [bool, char, decimal, single, double] ++ IntKind.all.map int

theorem mem_all (t : ScalarType) : t ∈ all := by
  cases t with
  | int kind => cases kind <;> decide
  | _ => decide

/-- What a datum of the type is. -/
@[reducible] def Carrier : ScalarType → Type
  | bool => Bool
  | char => Char
  | decimal => Decimal
  | single => Single
  | double => Double
  | int kind => kind.Number

/-- The type's name, as the test for it is called. -/
def name : ScalarType → String
  | bool => "bool"
  | char => "char"
  | decimal => "decimal"
  | single => "f32"
  | double => "f64"
  | int kind => kind.spelling

/-- The value that holds a datum of the type. -/
def toValue : (t : ScalarType) → t.Carrier → Value
  | bool, b => .bool b
  | char, c => .char c
  | decimal, d => .decimal d
  | single, x => .single x
  | double, x => .double x
  | int kind, n => .int kind n

end ScalarType

/-- What a value can be made of by reference: a text, a slice of bytes, or a scalar. -/
inductive Referent
  | text
  | bytes
  | scalar (type : ScalarType)

@[reducible] def Referent.Carrier : Referent → Type
  | text => String
  | bytes => List UInt8
  | scalar type => type.Carrier

namespace Value

/-- The value holds a copy of what is referred to. A slice of bytes becomes a buffer, unlike an
array of bytes, which becomes a list of them. -/
def ofReferent : (r : Referent) → r.Carrier → Value
  | .text, s => string s
  | .bytes, bs => bytes bs
  | .scalar type, x => type.toValue x

/-- The scalar that the value holds, with its type. -/
def scalar? : Value → Option ((t : ScalarType) × t.Carrier)
  | bool b => some ⟨.bool, b⟩
  | char c => some ⟨.char, c⟩
  | decimal d => some ⟨.decimal, d⟩
  | single x => some ⟨.single, x⟩
  | double x => some ⟨.double, x⟩
  | int kind n => some ⟨.int kind, n⟩
  | _ => none

/-- The value holds a scalar of the type. -/
def isOf (t : ScalarType) (v : Value) : Bool := v.scalar?.any (·.1 == t)

variable {t u : ScalarType} {v : Value}

theorem scalar?_eq_some_iff {x : t.Carrier} : v.scalar? = some ⟨t, x⟩ ↔ v = t.toValue x := by
  constructor
  · intro holds
    cases v <;> cases holds <;> rfl
  · rintro rfl
    cases t <;> rfl

theorem isOf_iff : v.isOf t = true ↔ ∃ x, v = t.toValue x := by
  rw [isOf, Option.any_eq_true]
  constructor
  · rintro ⟨⟨_, x⟩, holds, same⟩
    cases eq_of_beq same
    exact ⟨x, scalar?_eq_some_iff.1 holds⟩
  · rintro ⟨x, holds⟩
    exact ⟨⟨t, x⟩, scalar?_eq_some_iff.2 holds, beq_self_eq_true t⟩

/-- No value passes the tests of two types. -/
theorem isOf_unique (first : v.isOf t = true) (second : v.isOf u = true) : t = u := by
  obtain ⟨x, holds⟩ := isOf_iff.1 first
  obtain ⟨y, alsoHolds⟩ := isOf_iff.1 second
  have same := (scalar?_eq_some_iff.2 holds).symm.trans (scalar?_eq_some_iff.2 alsoHolds)
  exact congrArg Sigma.fst (Option.some.inj same)

end Value

end RecordBinding
