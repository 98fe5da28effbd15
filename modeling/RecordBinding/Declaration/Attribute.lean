import RecordBinding.Declaration.Nested

namespace RecordBinding

/-- What follows the name of an attribute: nothing, a group of arguments, or a
value after an equals sign, which says nothing here. -/
inductive AttributeBody
  | bare
  | arguments (tokens : List Token)
  | value

/-- An attribute. Only a name of a single segment is of interest. -/
structure Attribute where
  name : Option String
  body : AttributeBody

namespace Attribute

open Reader

/-- What a path without arguments may begin with. -/
def isSegment (tokens : List Token) : Bool :=
  isName tokens || ["super", "self", "Self", "crate"].any (isKeyword · tokens)

/-- A path without arguments, and its name if it has but one segment. -/
def modulePath : Reader (Option String) := do
  let leading ← punct? "::"
  let first ← if ← sees isSegment then anyIdent else Reader.name
  let further ← many do
    if ← punct? "::" then
      if ← sees isSegment then return some (← anyIdent)
      else expected ["path segment after `::`"]
    else return none
  return if !leading && further.isEmpty then some first else none

/-- The value after the equals sign: a literal, or else an expression. -/
def value (nested : Nested) : Reader Unit := do
  punct "="
  let tokens ← input
  let lone := match tokens with
    | [.punct '-' _, .literal _] => isLiteral tokens
    | [_] => isLiteral tokens
    | _ => false
  if lone then take tokens.length
  else if (← seesPunct "#") && (← seesAfter 1 (isGroup .bracket)) then throw .attributeInside
  else discard <| nested.expression true

/-- What follows an attribute's name. An equals sign that is part of another sign
does not. -/
def attributeBody (nested : Nested) : Reader AttributeBody := do
  match ← input with
  | .group _ tokens :: _ =>
    take 1
    return .arguments tokens
  | _ =>
    if (← seesPunct "=") && !(← seesPunct "==") && !(← seesPunct "=>") then
      value nested
      return .value
    else return .bare

/-- An attribute without its brackets. Of the keywords that do not begin a path, one
may name an attribute. -/
def content (nested : Nested) : Reader Attribute := do
  let name ← if ← seesKeyword "unsafe" then some <$> anyIdent else modulePath
  return ⟨name, ← attributeBody nested⟩

/-- The attributes in front of what they are about. -/
def outer (nested : Nested) : Reader (List Attribute) :=
  many do
    if ← punct? "#" then return some (← inside .bracket (content nested))
    else return none

/-- The attributes inside of what they are about. -/
def inner (nested : Nested) : Reader Unit :=
  repeated do
    if (← seesPunct "#") && (← seesAfter 1 (isPunct "!")) then
      take 2
      discard <| inside .bracket (content nested)
      return true
    else return false

end Attribute

namespace Reader

/-- Attributes of which nothing is kept but their copy. -/
def attributes (nested : Nested) : Reader Unit := discard <| Attribute.outer nested

/-- Statements between braces. -/
def block (nested : Nested) : Reader Unit := inside .brace nested.statements

/-- What is in braces and may begin with attributes. -/
def bracedWith (nested : Nested) (content : Reader Unit) : Reader Unit :=
  inside .brace do
    Attribute.inner nested
    content

/-- Statements between braces, which may begin with attributes. -/
def blockExpression (nested : Nested) : Reader Unit := bracedWith nested nested.statements

end Reader

end RecordBinding
