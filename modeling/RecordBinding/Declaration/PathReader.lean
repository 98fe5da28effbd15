import RecordBinding.Declaration.Attribute

namespace RecordBinding

/-- The arguments of a path segment. A single type is told apart from all other
arguments. -/
inductive SegmentArguments
  | absent
  | single (turbofish : Bool) (argument : TypeExpr) (comma : Bool)
  | tokens (written : List Token)

def SegmentArguments.isAbsent : SegmentArguments → Bool
  | absent => true
  | _ => false

/-- A path that is read. A plain one has no arguments at all. -/
structure PathReading where
  head : PathHead
  arguments : SegmentArguments
  plain : Bool

namespace PathReading

def toType (p : PathReading) : TypeExpr :=
  match p.arguments with
  | .absent => .path p.head []
  | .single turbofish argument comma => .applied p.head turbofish argument comma
  | .tokens written => .path p.head written

def tokens (p : PathReading) : List Token := p.toType.tokens

end PathReading

/-- An argument between angle brackets. -/
inductive GenericArgument
  | lifetime
  | type (t : TypeExpr)
  | other

def GenericArgument.isLifetime : GenericArgument → Bool
  | lifetime => true
  | _ => false

namespace Reader

/-- A constant where types may stand: a literal, a name or a block. -/
def constantArgument (nested : Nested) : Reader Unit := do
  if ← sees isLiteral then literal
  else if ← sees isName then take 1
  else if ← sees (isGroup .brace) then blockExpression nested
  else expected []

/-- A lifetime, a constant, a type, or what a name is said to be or to fulfil. -/
def genericArgument (nested : Nested) : Reader GenericArgument := do
  if (← sees isLifetime) && !(← seesAfter 1 (isPunct "+")) then
    take 1
    return .lifetime
  else if (← sees isLiteral) || (← sees (isGroup .brace)) then
    constantArgument nested
    return .other
  else
    let argument ← nested.type true
    if !argument.type.isSegment then return .type argument.type
    else if ← punct? "=" then
      if (← sees isLiteral) || (← sees (isGroup .brace)) then constantArgument nested
      else discard <| nested.type true
      return .other
    else if ← punct? ":" then
      sum (return (← seesPunct ",") || (← seesPunct ">")) nested.bound
      return .other
    else return .type argument.type

/-- The arguments of a segment, with a double colon in front perhaps. -/
def angleArguments (nested : Nested) : Reader SegmentArguments := do
  let ((turbofish, arguments), tokens) ← copied do
    let turbofish ← punct? "::"
    return (turbofish, ← angled (genericArgument nested) (·.isLifetime) (punct ","))
  match arguments with
  | [(.type t, comma)] => return .single turbofish t comma
  | _ => return .tokens tokens

/-- One segment of a path. In an expression its arguments need a double colon. -/
def segment (nested : Nested) (inExpression : Bool) : Reader (String × SegmentArguments) := do
  if ← seesAny (["super", "self", "crate", "try"].map isKeyword) then return (← anyIdent, .absent)
  else
    let word ← if ← seesKeyword "Self" then anyIdent else name
    if !inExpression && (← seesPunct "<") && !(← seesPunct "<=") && !(← seesPunct "<<=") ||
        (← seesPunct "::") && (← seesAfter 2 (isPunct "<")) then
      return (word, ← angleArguments nested)
    else return (word, .absent)

/-- Further segments of a path. Before parentheses a double colon belongs to the
arguments, unless the path is qualified. -/
def furtherSegments (nested : Nested) (inExpression qualified : Bool) (p : PathReading) :
    Reader PathReading :=
  iterate (fun p => do
    if (← seesPunct "::") && (qualified || !(← seesAfter 2 (isGroup .paren))) then
      take 2
      let (last, arguments) ← segment nested inExpression
      return some
        { head := ⟨p.tokens ++ TypeExpr.doubleColon, some p.head.last, last⟩, arguments
          plain := p.plain && arguments.isAbsent }
    else return none) p

def path (nested : Nested) (inExpression : Bool) : Reader PathReading := do
  let leading ← punct? "::"
  let (last, arguments) ← segment nested inExpression
  furtherSegments nested inExpression false
    { head := ⟨if leading then TypeExpr.doubleColon else [], none, last⟩, arguments
      plain := arguments.isAbsent }

/-- A path that begins with a type in angle brackets. -/
def qualifiedPath (nested : Nested) (inExpression : Bool) : Reader PathReading := do
  let (_, before) ← copied do
    punct "<"
    discard <| nested.type true
    if ← keyword? "as" then discard <| path nested false
    punct ">"
    punct "::"
  let (last, arguments) ← segment nested inExpression
  furtherSegments nested inExpression true
    { head := ⟨before, none, last⟩, arguments, plain := false }

/-- A path of either kind, which a qualified one is told apart by. -/
def anyPath (nested : Nested) (inExpression : Bool) : Reader (Bool × PathReading) := do
  if ← seesPunct "<" then return (true, ← qualifiedPath nested inExpression)
  else return (false, ← path nested inExpression)

/-- Tokens that can begin a path, of whichever kind. -/
def isPathStart (tokens : List Token) : Bool :=
  Attribute.isSegment tokens || isPunct "::" tokens || isPunct "<" tokens

/-- An exclamation mark that is not part of another sign. -/
def isBang (tokens : List Token) : Bool := isPunct "!" tokens && !isPunct "!=" tokens

/-- A type that may follow an arrow. -/
def returnType (nested : Nested) (allowPlus : Bool) : Reader Unit := do
  if ← punct? "->" then discard <| nested.type allowPlus

end Reader

end RecordBinding
