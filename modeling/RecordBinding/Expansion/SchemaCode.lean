import RecordBinding.Declaration.StructMapping
import RecordBinding.Expansion.Code

namespace RecordBinding

open Code

/-- A type as a description shows it, without blanks. -/
def TypeExpr.compact (t : TypeExpr) : String :=
  String.ofList ((String.join t.words).toList.filter (· != ' '))

/-- The category of an innermost type. An enumerated type tells name and
representation itself. -/
def LeafClass.categoryCode (type : TypeExpr) : LeafClass → Code
  | bool => support "TypeCategory : : Bool"
  | int kind =>
    support "TypeCategory : : Int" ++ parens (support "IntKind : :" ++ [kind.variant])
  | single => support "TypeCategory : : F32"
  | double => support "TypeCategory : : F64"
  | decimal => support "TypeCategory : : Decimal"
  | char => support "TypeCategory : : Char"
  | string => support "TypeCategory : : String"
  | dateTime => support "TypeCategory : : DateTime"
  | dateTimeOffset _ => support "TypeCategory : : DateTimeOffset"
  | timeSpan _ => support "TypeCategory : : TimeSpan"
  | guid => support "TypeCategory : : Guid"
  | enum =>
    support "TypeCategory : : Enum" ++ braces
      (ofText "name :" ++ asTrait type.words "RowEnum" "NAME" ++
        ofText ", repr :" ++ asTrait type.words "RowEnum" "REPR" ++ [","])
  | other => support "TypeCategory : : Other" ++ parens (ofString type.compact)

def ClassifiedType.categoryCode : ClassifiedType → Code
  | leaf type kind => kind.categoryCode type
  | array _ item =>
    support "TypeCategory : : Array" ++ parens (ofText "Box : : new" ++ parens item.categoryCode)
  | nullable _ inner =>
    support "TypeCategory : : Nullable" ++
      parens (ofText "Box : : new" ++ parens inner.categoryCode)

/-- What the schema of a type says of a field. -/
def MappedField.declarationCode (typeName : String) (f : MappedField) : Code :=
  match f.binding with
  | .flattened type =>
    support "FieldDecl : : Flatten" ++ braces
      (ofText "ident :" ++ ofString (plainName f.ident) ++
        ofText ", schema :" ++ asTrait type.words "RowMapper" "schema" ++ ofText "( ) ,")
  | .named type =>
    support "FieldDecl : : Field" ++ parens (support "FieldDescriptor" ++ braces
      (ofText "name :" ++ ofString f.name ++
        ofText ", ident :" ++ ofString (plainName f.ident) ++
        ofText ", category :" ++ type.categoryCode ++
        ofText ", settable :" ++ ofBool f.isSettable ++
        ofText ", readable :" ++ ofBool f.isReadable ++
        ofText ", declared_in :" ++ ofString typeName ++ [","]))

/-- The schema is built on first use and kept. -/
def StructMapping.schemaCode (m : StructMapping) : Code :=
  let kept := support "OnceLock" ++ angles (support "Schema")
  let description := support "TypeDescription" ++ braces
    (ofText "name :" ++ ofString m.name ++
      ofText ", constructible :" ++ ofBool m.isConstructible ++
      ofText ", fields : vec !" ++ brackets (commas (m.fields.map (·.declarationCode m.name))) ++
      [","])
  ofText "fn schema ( ) - > & 'static" ++ support "Schema" ++ braces
    (ofText "static SCHEMA :" ++ kept ++ ["="] ++ support "OnceLock : : new ( ) ;" ++
      ofText "SCHEMA . get_or_init" ++ parens (ofText "| |" ++ braces
        (support "Schema : : extract" ++ parens description)))

end RecordBinding
