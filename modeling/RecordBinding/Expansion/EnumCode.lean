import RecordBinding.Expansion.Code
import RecordBinding.Field.EnumType

namespace RecordBinding

open Code

namespace EnumType

variable (e : EnumType)

/-- A variant of the type. -/
def variantCode (ident : String) : Code := ofText "Self : :" ++ [ident]

/-- The reading of a number. An undeclared one is kept, if there is a variant to keep
it in. -/
def fromReprCode : Code :=
  let arms := e.variants.flatMap fun v =>
    ofInt v.discriminant ++ ofText "= > Ok" ++ parens (variantCode v.ident) ++ [","]
  let fallback :=
    match e.other with
    | some ident => ofText "Ok" ++ parens (variantCode ident ++ ofText "( repr )")
    | none =>
      ofText "Err" ++ parens (support "Error : : type_conversion" ++
        parens (support "Value : : from ( repr ) ," ++ ofString e.name))
  ofText "fn from_repr" ++ parens (ofText "repr :" ++ [e.repr.spelling]) ++ ofText "- >" ++
    support "Result < Self >" ++
    braces (ofText "match repr" ++ braces (arms ++ ofText "repr = >" ++ fallback ++ [","]))

def toReprCode : Code :=
  let arms := e.variants.flatMap fun v =>
    variantCode v.ident ++ ofText "= >" ++ ofInt v.discriminant ++ [","]
  let other :=
    match e.other with
    | some ident => variantCode ident ++ ofText "( repr ) = > * repr ,"
    | none => []
  ofText "fn to_repr ( & self ) - >" ++ e.repr.spelling ::
    braces (ofText "match self" ++ braces (arms ++ other))

def zeroCode : Code :=
  ofText "fn zero ( ) - > Self" ++ braces
    (variantCode e.zero.ident ++
      match e.zero with
      | .declared _ => []
      | .other _ _ => ofText "( 0 )")

def representationCode : Code :=
  ["impl"] ++ support "RowEnum for" ++ e.ident :: braces
    (ofText "type Repr =" ++ e.repr.spelling :: ofText "; const NAME : & 'static str =" ++
      ofString e.name ++ ofText "; const REPR :" ++ support "IntKind =" ++
      support "IntKind : :" ++ e.repr.variant :: ";" ::
      e.fromReprCode ++ e.toReprCode ++ e.zeroCode)

/-- The value that holds a member. -/
def intoValueCode : Code :=
  ofText "impl : : core : : convert : : From <" ++ e.ident :: ofText "> for" ++
    support "Value" ++ braces
      (ofText "fn from" ++ parens (ofText "value :" ++ [e.ident]) ++ ofText "- > Self" ++ braces
        (ofText "let ordinal =" ++ asTrait [e.ident] "RowEnum" "to_repr" ++
          ofText "( & value ) as i128 ;" ++ support "Value : : Enum" ++
          parens (support "ValueEnum : : new" ++ parens (ofString e.name ++ ofText ", ordinal"))))

def tryFromCode : Code :=
  ofText "impl : : core : : convert : : TryFrom" ++ angles (support "Value") ++
    "for" :: e.ident :: braces
      (ofText "type Error =" ++ support "Error ;" ++
        ofText "fn try_from" ++ parens (ofText "value :" ++ support "Value") ++ ofText "- >" ++
        support "Result < Self >" ++ braces
          (Code.tryFrom [e.repr.spelling] ++ ofText ". and_then" ++
            parens (asTrait ["Self"] "RowEnum" "from_repr")))

/-- Only a value of the very same type is taken without conversion. -/
def exactCode : Code :=
  ["impl"] ++ support "Exact for" ++ e.ident :: braces
    (ofText "fn matches" ++ parens (ofText "value : &" ++ support "Value") ++ ofText "- > bool" ++
      braces (ofText "match value" ++ braces
        (support "Value : : Enum ( value ) = >" ++ braces
          (asTrait ["Self"] "Exact" "from_exact" ++
            parens (support "Value : : Enum ( * value )") ++ ofText ". is_ok ( )") ++
          ofText "_ = > false ,")) ++
      ofText "fn from_exact" ++ parens (ofText "value :" ++ support "Value") ++
      ofText "- > : : core : : result : : Result" ++
      angles (ofText "Self ," ++ support "Value") ++
      braces (ofText "match value" ++ braces
        (support "Value : : Enum ( value ) if value . ty = =" ++ ofString e.name ++ ofText "= >" ++
          braces (ofText "let converted = <" ++ e.repr.spelling ::
            ofText ("as : : core : : convert : : TryFrom < i128 > > : : try_from " ++
              "( value . ordinal ) . ok ( ) . and_then") ++
            parens (ofText "| repr |" ++ asTrait ["Self"] "RowEnum" "from_repr" ++
              ofText "( repr ) . ok ( )") ++ ofText "; match converted" ++ braces
              (ofText "Some ( converted ) = > Ok ( converted ) , None = > Err" ++
                parens (support "Value : : Enum ( value )") ++ [","])) ++
          ofText "value = > Err ( value ) ,")))

/-- All that is generated for an enumerated type. -/
def code : Code :=
  enclosed (e.representationCode ++ e.intoValueCode ++ e.tryFromCode ++ e.exactCode)

end EnumType

end RecordBinding
