import RecordBinding.Declaration.Classification
import RecordBinding.Expansion.Code

namespace RecordBinding

/-- How generated code takes a value for a field: text as it is, null or a value,
item by item, a list reread as items of a type, a number that stands for a variant,
a user's conversion, the variant that stores the type before the general conversion,
or the general conversion alone. -/
inductive Coercion
  | text
  | nullable (inner : Coercion)
  | eachItem (item : Coercion)
  | reread (item : TypeExpr)
  | representation (type : TypeExpr)
  | foreign (type : TypeExpr)
  | stored (variant : String) (type : TypeExpr)
  | general (type : TypeExpr)

namespace Coercion

def ofLeaf (type : TypeExpr) : LeafClass → Coercion
  | .string => text
  | .enum => representation type
  | .other => foreign type
  | kind =>
    match kind.variant? with
    | some variant => stored variant type
    | none => general type

/-- Arrays are only reread, unless types that are not recognized are inside. -/
def ofType : ClassifiedType → Coercion
  | .leaf type kind => ofLeaf type kind
  | .nullable _ inner => nullable (ofType inner)
  | .array _ item => if item.containsOther then eachItem (ofType item) else reread item.type

open Code in
/-- An expression that converts the value at hand. -/
def code : Coercion → Code
  | text => support "Value : : into_string ( value )"
  | nullable inner =>
    ofText "match value" ++ braces (support "Value : : Null = > Ok ( None ) , value = >" ++
      parens inner.code ++ ofText ". map ( Some ) ,")
  | eachItem item =>
    support "Value : : into_array_with" ++ parens (ofText "value , | value |" ++ item.code)
  | reread item =>
    support "Value : : into_array : :" ++ angles item.words ++ ofText "( value )"
  | representation type =>
    tryFrom (asTrait type.words "RowEnum" "Repr") ++ ofText ". and_then" ++
      parens (asTrait type.words "RowEnum" "from_repr")
  | foreign type => tryFrom type.words ++ ofText ". map_err" ++ parens (support "Error : : from")
  | stored variant type =>
    ofText "match value" ++ braces (support "Value : :" ++
      variant :: ofText "( v ) = > Ok ( v ) , value = >" ++ tryFrom type.words ++ [","])
  | general type => tryFrom type.words

end Coercion

/-- What a field is reset to when a value cannot be converted. -/
def ClassifiedType.fallback : ClassifiedType → Code
  | leaf type .enum => Code.asTrait type.words "RowEnum" "zero" ++ Code.ofText "( )"
  | t =>
    Code.angles (t.type.words ++ Code.ofText "as : : core : : default : : Default") ++
      Code.ofText ": : default ( )"

end RecordBinding
