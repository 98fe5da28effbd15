import RecordBinding.Declaration.TypeExpr
import RecordBinding.Text.Quoted

namespace RecordBinding

/-- Generated code, word by word. Each punctuation character is a word. -/
abbrev Code : Type := List String

namespace Code

/-- Code from text in which the words are one blank apart. -/
def ofText (text : String) : Code := text.splitOn " "

def parens (content : Code) : Code := "(" :: content ++ [")"]

def brackets (content : Code) : Code := "[" :: content ++ ["]"]

def braces (content : Code) : Code := "\x7b" :: content ++ ["\x7d"]

def angles (content : Code) : Code := "<" :: content ++ [">"]

/-- A thing of the supporting library, by its path there. -/
def support (path : String) : Code := ofText "_rowmap : : codegen_support : :" ++ ofText path

/-- Items with commas between them. -/
def commas (items : List Code) : Code := [","].intercalate items

/-- Something that a type has as an implementor of one of the library's traits. -/
def asTrait (type : Code) (traitName item : String) : Code :=
  angles (type ++ ["as"] ++ support traitName) ++ ofText ": :" ++ [item]

/-- The general conversion of the value at hand. -/
def tryFrom (type : Code) : Code :=
  angles (type ++ ofText "as : : core : : convert : : TryFrom" ++ angles (support "Value")) ++
    ofText ": : try_from ( value )"

/-- A whole number. A negative one has its sign in front. -/
def ofInt (n : Int) : Code :=
  if n < 0 then ["-", toString n.natAbs] else [toString n.natAbs]

def ofBool (b : Bool) : Code := [if b then "true" else "false"]

def ofString (s : String) : Code := [stringLiteral s]

/-- Code as text again, with a blank between words. -/
def text (c : Code) : String := " ".intercalate c

end Code

/-- What is generated for a type stands in a scope of its own, where the library has
a name that no user can have taken. -/
def Code.enclosed (content : Code) : Code :=
  Code.ofText "const _ : ( ) =" ++
    Code.braces (Code.ofText "use rowmap as _rowmap ;" ++ content) ++ [";"]

end RecordBinding
