import RecordBinding.Declaration.AtomReader

namespace RecordBinding.Reader

/-- The receiver of a method. -/
def receiver (nested : Nested) : Reader Unit := do
  let reference ← punct? "&"
  if reference && (← sees isLifetime) then take 1
  discard <| keyword? "mut"
  keyword "self"
  if !reference then
    if ← punct? ":" then discard <| nested.type true

/-- What of the parameters of a function stands before the present one. -/
inductive ParametersBefore
  | none | receiver | others
  deriving DecidableEq

/-- The mark of further parameters, after which there is nothing but a comma. -/
def variadicMark : Reader Bool := do
  let seen ← punct? "..."
  if seen then
    unless ← atEnd do punct ","
  return seen

/-- A parameter that is no receiver, and whether others may follow it. A type alone,
as older texts have it, is copied with a pattern that matches anything. -/
def typedParameter (nested : Nested) : Reader Bool := do
  if (← sees isName) && (← seesAfter 1 (isPunct "<")) then
    write [.ident "_", .punct ':' false]
    discard <| nested.type true
    return true
  else
    discard nested.pattern
    punct ":"
    if ← variadicMark then return false
    else
      discard <| nested.type true
      return true

/-- The parameters of a function. Only the first one may be its receiver. -/
def functionArguments (nested : Nested) : Reader Unit :=
  discard <| iterate (fun before => do
    if ← atEnd then return none
    attributes nested
    if ← variadicMark then return none
    let received ← attempt (receiver nested)
    if received.isSome then
      match before with
      | .none => pure ()
      | .receiver => throw .receiverRepeated
      | .others => throw .receiverMisplaced
    else unless ← typedParameter nested do return none
    if ← atEnd then return none
    punct ","
    let received := received.isSome || before = .receiver
    return some (if received then .receiver else .others)) ParametersBefore.none

/-- The head of a function, and whether it is declared to be safe, which only foreign
ones are. -/
def signature (nested : Nested) (allowSafe : Bool) : Reader Bool := do
  discard <| keyword? "const"
  discard <| keyword? "async"
  let guarded ← keyword? "unsafe"
  let safe ← if allowSafe && !guarded then keyword? "safe" else pure false
  abi?
  keyword "fn"
  discard name
  discard <| parameters nested
  insideThen .paren (functionArguments nested) fun _ tokens => do
    write [.group .paren tokens]
    returnType nested true
    discard <| conditions nested
  return safe

/-- Whether the head of a function begins here. -/
def seesSignature (allowSafe : Bool) : Reader Bool :=
  ahead do
    discard <| keyword? "const"
    discard <| keyword? "async"
    let safe ← if allowSafe then keyword? "safe" else pure false
    unless safe do discard <| keyword? "unsafe"
    abi?
    seesKeyword "fn"

end RecordBinding.Reader
