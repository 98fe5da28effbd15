import RecordBinding.Declaration.Parameters

namespace RecordBinding

/-- What a type is bound by. -/
inductive BoundKind
  | lifetime | capture | trait
  deriving DecidableEq

namespace Reader

/-- Arguments in parentheses after a path whose last segment has none. A double colon
in front of them is not copied. -/
def callArguments (nested : Nested) (p : PathReading) : Reader Unit := do
  if p.arguments.isAbsent &&
      ((← sees (isGroup .paren)) || (← seesPunct "::") && (← seesAfter 2 (isGroup .paren))) then
    discard <| uncopied (punct? "::")
    insideThen .paren (discard <| commaSeparated (nested.type true)) fun _ tokens => do
      write [.group .paren tokens]
      returnType nested false

/-- A trait, perhaps with marks and with parameters that it introduces, and whether
it is marked as constant. -/
def traitBound (nested : Nested) (allowConst : Bool) : Reader Bool := do
  let bound ← binder? nested
  let conditional ← sees (isGroup .bracket)
  if conditional then inside .bracket (keyword "const")
  let constant ← if conditional then pure true else keyword? "const"
  if constant && !allowConst then throw (.constNotAllowed conditional)
  let relaxed ← punct? "?"
  let bound ← if relaxed && !bound then binder? nested else pure bound
  let p ← path nested false
  callArguments nested p
  if bound && relaxed then throw .relaxedBinder
  return constant

/-- The parameters that an opaque type may depend on. -/
def capture : Reader Unit := do
  keyword "use"
  discard <| angled
    (do
      if ← sees isLifetime then
        take 1
        return true
      else if (← sees isName) || (← seesKeyword "Self") then
        take 1
        return false
      else expected ["lifetime", "identifier", shown ">"])
    id
    (do if ← seesPunct "," then take 1 else expected [shown ",", shown ">"])

/-- One bound. -/
def bound (nested : Nested) (allowCapture allowConst : Bool) : Reader BoundKind := do
  if ← sees isLifetime then
    take 1
    return .lifetime
  else if ← seesKeyword "use" then
    capture
    if allowCapture then return .capture else throw .captureNotAllowed
  else
    discard <| verbatimIf id do
      if ← sees (isGroup .paren) then inside .paren (traitBound nested allowConst)
      else traitBound nested allowConst
    return .trait

/-- What may follow a sign of addition, so that the sum does not end in it. -/
def isBoundStart (tokens : List Token) : Bool :=
  isAnyIdent tokens || isPunct "::" tokens || isPunct "?" tokens || isLifetime tokens ||
    isGroup .paren tokens

/-- Bounds with signs of addition between them, and what they are. -/
def bounds (nested : Nested) (allowPlus allowCapture allowConst : Bool) :
    Reader (List BoundKind) := do
  let first ← bound nested allowCapture allowConst
  let further ← many do
    if allowPlus && (← seesPunct "+") then
      take 1
      if (← sees isBoundStart) || allowConst && (← sees (isGroup .bracket)) then
        return some (← bound nested allowCapture allowConst)
      else return none
    else return none
  return first :: further

end Reader

end RecordBinding
