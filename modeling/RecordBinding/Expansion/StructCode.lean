import RecordBinding.Expansion.Coercion
import RecordBinding.Expansion.SchemaCode

namespace RecordBinding

open Code

namespace MappedField

/-- The constant that holds a field's first slot. -/
def slot (f : MappedField) : String := "__ROWMAP_SLOT_" ++ toString f.index

/-- The number of slots of a field. Flattened types have as many as they have columns. -/
def width (f : MappedField) : Code :=
  match f.binding with
  | .named _ => ["1"]
  | .flattened type => asTrait type.words "RowMapper" "COLUMNS"

/-- The test for the field's name. -/
def nameTest (f : MappedField) : Code :=
  ["if"] ++ support "eq_ignore_case" ++ parens (ofText "name ," ++ ofString f.name)

/-- What the setter does about the field: it assigns the field and is done, or hands
the value on to the flattened type and takes it back if nothing there has the name. -/
def setting (f : MappedField) : Code :=
  match f.binding with
  | .named type =>
    f.nameTest ++ braces (ofText "self ." ++ f.ident :: "=" ::
      parens (Coercion.ofType type).code ++ ofText ". unwrap_or_else" ++
      parens (ofText "| _ |" ++ type.fallback) ++ ofText "; return" ++
      support "ControlFlow : : Break ( ( ) ) ;")
  | .flattened type =>
    ofText "let value = match" ++ asTrait type.words "RowMapper" "set_field" ++
      parens (ofText "& mut self ." ++ f.ident :: ofText ", name , value") ++ braces
        (support "ControlFlow : : Continue ( value ) = > value ," ++
          support "ControlFlow : : Break ( ( ) ) = > return" ++
          support "ControlFlow : : Break ( ( ) ) ,") ++ [";"]

/-- What is done about the field when a column is looked up by name. -/
def resolving (f : MappedField) : Code :=
  match f.binding with
  | .named _ => f.nameTest ++ braces (ofText "return Some" ++ parens [f.slot] ++ [";"])
  | .flattened type =>
    ofText "if let Some ( slot ) =" ++ asTrait type.words "RowMapper" "resolve_column" ++
      ofText "( name )" ++
      braces (ofText "return Some" ++ parens (f.slot :: ofText "+ slot") ++ [";"])

/-- What is done about the field when a column is bound by slot. -/
def columnBinding (f : MappedField) : Code :=
  match f.binding with
  | .named type =>
    f.slot :: ofText "= >" ++ braces (ofText "self ." ++ f.ident :: "=" ::
      parens (Coercion.ofType type).code ++ ofText ". map_err" ++
      parens (ofText "| err | err . context" ++
        parens (support "Error : : bind_column" ++ parens (ofString f.name))) ++ ofText "? ;")
  | .flattened type =>
    ofText "slot if slot > =" ++ f.slot :: ofText "& & slot <" ++ f.slot :: "+" :: f.width ++
      ofText "= >" ++ braces (asTrait type.words "RowMapper" "bind_column" ++
        parens (ofText "& mut self ." ++ f.ident :: ofText ", slot -" ++ f.slot ::
          ofText ", value") ++ ofText "? ;")

end MappedField

namespace StructMapping

variable (m : StructMapping)

def columnCount : Code :=
  ofText "const COLUMNS : usize = 0" ++ m.columns.flatMap (fun f => "+" :: f.width) ++ [";"]

/-- Each field's slots begin where those of the field before end. -/
def slotConstants (previous : Option MappedField) : List MappedField → Code
  | [] => []
  | f :: rest =>
    let start :=
      match previous with
      | some p => p.slot :: "+" :: p.width
      | none => ["0"]
    "const" :: f.slot :: ofText ": usize =" ++ start ++ ";" :: slotConstants (some f) rest

def settingCode : Code :=
  ofText "fn set_field" ++
    parens (ofText "& mut self , name : & str , value :" ++ support "Value ,") ++ ofText "- >" ++
    support "ControlFlow" ++ angles (ofText "( ) ," ++ support "Value") ++ braces
      ((m.fields.filter (·.isSettable)).flatMap (·.setting) ++
        support "ControlFlow : : Continue ( value )")

def resolvingCode : Code :=
  ofText "fn resolve_column ( name : & str ) - > : : core : : option : : Option < usize >" ++
    braces (slotConstants none m.columns ++ m.columns.flatMap (·.resolving) ++ ["None"])

def bindingCode : Code :=
  ofText "fn bind_column" ++
    parens (ofText "& mut self , slot : usize , value :" ++ support "Value") ++ ofText "- >" ++
    support "Result < ( ) >" ++ braces
      (slotConstants none m.columns ++ ofText "match slot" ++
        braces (m.columns.flatMap (·.columnBinding) ++ ofText "_ = >" ++ braces []) ++
        ofText "Ok ( ( ) )")

def constructionCode : Construction → Option Code
  | .default => some (ofText "< Self as : : core : : default : : Default > : : default ( )")
  | .call path => some (Token.wordsOf path ++ ofText "( )")
  | .impossible => none

/-- Reading from rows, for types that can be constructed. -/
def rowCode : Code :=
  match constructionCode m.construction with
  | none => []
  | some construction =>
    ["impl"] ++ support "FromRow for" ++ m.ident :: braces
      (ofText "fn construct ( ) - > Self" ++ braces construction ++
        ofText "fn from_row < R :" ++ support "Row + ? Sized > ( row : & R ) - >" ++
        support "Result < Self >" ++ braces
          (ofText "let mut instance =" ++ asTrait ["Self"] "FromRow" "construct" ++
            ofText "( ) ; for ( name , value ) in" ++ support "Row : : columns ( row )" ++ braces
              (ofText "if let Some ( slot ) =" ++ asTrait ["Self"] "RowMapper" "resolve_column" ++
                ofText "( name )" ++ braces
                  (asTrait ["Self"] "RowMapper" "bind_column" ++
                    ofText "( & mut instance , slot , value ) ? ;")) ++
            ofText "Ok ( instance )"))

/-- All that is generated for a type with fields. -/
def code : Code :=
  enclosed (["impl"] ++ support "RowMapper for" ++ m.ident :: braces
    (m.columnCount ++ m.schemaCode ++ m.settingCode ++ m.resolvingCode ++ m.bindingCode) ++
    m.rowCode)

end StructMapping

end RecordBinding
