import RecordBinding.Declaration.Attribute

namespace RecordBinding

/-- A field as it is declared. -/
structure DeclaredField where
  attributes : List Attribute
  ident : String
  type : TypeExpr

/-- What a variant holds: nothing, named fields, or so many unnamed ones. -/
inductive VariantShape
  | unit
  | named
  | unnamed (count : Nat)
  deriving DecidableEq

/-- A variant as it is declared. -/
structure DeclaredVariant where
  attributes : List Attribute
  ident : String
  shape : VariantShape
  discriminant : Option Discriminant

inductive ItemBody
  | fields (fields : List DeclaredField)
  | unnamedFields
  | variants (variants : List DeclaredVariant)
  | union

/-- The declaration of a type. -/
structure Item where
  attributes : List Attribute
  ident : String
  generic : Bool
  body : ItemBody

end RecordBinding
