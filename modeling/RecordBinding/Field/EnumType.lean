import RecordBinding.Number.IntKind
import RecordBinding.Value.Convert
import RecordBinding.Error.Basic

namespace RecordBinding

/-- An identifier without the mark that lets it be spelled like a keyword. -/
def plainName (ident : String) : String :=
  match ident.toList with
  | 'r' :: '#' :: rest => String.ofList rest
  | _ => ident

/-- A variant without fields and the number that stands for it. -/
structure EnumVariant where
  ident : String
  discriminant : Int
  deriving DecidableEq

/-- An enumerated type bound through an integer representation. One more variant
may hold the numbers that no other variant declares. -/
structure EnumType where
  ident : String
  repr : IntKind
  variants : List EnumVariant
  other : Option String
  fits : ∀ v ∈ variants, repr.Fits v.discriminant
  distinct : (variants.map (·.discriminant)).Nodup
  inhabited : variants ≠ [] ∨ other.isSome

namespace EnumType

/-- The name that values of the type carry. -/
def name (e : EnumType) : String := plainName e.ident

/-- The values of an enumerated type. -/
inductive Member (e : EnumType)
  | declared (index : Fin e.variants.length)
  | other (repr : e.repr.Number) (allowed : e.other.isSome)

variable {e : EnumType}

/-- The identifier of the value's variant. -/
def Member.ident : e.Member → String
  | .declared index => e.variants[index].ident
  | .other _ allowed => e.other.get allowed

def Member.toRepr : e.Member → e.repr.Number
  | .declared index => ⟨e.variants[index].discriminant, e.fits _ (List.getElem_mem _)⟩
  | .other repr _ => repr

/-- The variant declared with a number, else the variant that holds undeclared
ones. -/
def fromRepr? (e : EnumType) (repr : e.repr.Number) : Option e.Member :=
  match e.variants.findFinIdx? (·.discriminant == repr.val) with
  | some index => some (.declared index)
  | none => if allowed : e.other.isSome then some (.other repr allowed) else none

/-- The value a field is reset to: the variant declared as zero, else the
holder of undeclared numbers with zero in it, else the first variant. -/
def zero (e : EnumType) : e.Member :=
  match e.fromRepr? e.repr.zero with
  | some member => member
  | none =>
    if nonempty : e.variants.length = 0 then
      .other e.repr.zero (e.inhabited.resolve_left (fun h => h (List.length_eq_zero_iff.1 nonempty)))
    else .declared ⟨0, Nat.pos_of_ne_zero nonempty⟩

def Member.tag (m : e.Member) : EnumTag := ⟨e.name, m.toRepr.val⟩

/-- An undeclared number fails as a value of the representation. -/
def fromRepr (e : EnumType) (repr : e.repr.Number) : Except Error e.Member :=
  match e.fromRepr? repr with
  | some member => .ok member
  | none => .error (.conversion (.int e.repr repr) e.name)

/-- A value is converted to the representation first. -/
def tryFrom (e : EnumType) (v : Value) : Except Error e.Member :=
  match v.toInt? e.repr with
  | some repr => e.fromRepr repr
  | none => .error (.conversion v e.repr.spelling)

/-- Only a value of the very same type holds a member, and only if its ordinal
is one of the type's. -/
def fromExact (e : EnumType) : Value → Except Value e.Member
  | .enum tag =>
    if tag.type = e.name then
      match (e.repr.ofInt? tag.ordinal).bind e.fromRepr? with
      | some member => .ok member
      | none => .error (.enum tag)
    else .error (.enum tag)
  | v => .error v

def isExactly (e : EnumType) : Value → Bool
  | .enum tag => (e.fromExact (.enum tag)).isOk
  | _ => false

end EnumType

end RecordBinding
