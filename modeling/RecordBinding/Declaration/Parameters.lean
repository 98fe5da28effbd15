import RecordBinding.Declaration.PathReader

namespace RecordBinding.Reader

/-- What follows a colon, if there is one. A colon with nothing to follow it is not
copied. -/
def afterColon (content : Reader Unit) : Reader Unit := do
  if ← seesPunct ":" then
    let (_, tokens) ← apart do
      take 1
      content
    if 1 < tokens.length then write tokens

def lifetimeParameter : Reader Unit := do
  lifetime
  afterColon <| sum (return (← atEnd) || (← seesPunct ",") || (← seesPunct ">")) lifetime

def typeParameter (nested : Nested) : Reader Unit := do
  discard name
  afterColon <| sum (return (← atEnd) || (← seesPunct ",") || (← seesPunct ">") || (← seesPunct "="))
    nested.bound
  if ← punct? "=" then discard <| nested.type true

def constantParameter (nested : Nested) : Reader Unit := do
  keyword "const"
  discard name
  punct ":"
  discard <| nested.type true
  if ← punct? "=" then constantArgument nested

/-- Parameters that a single bound, function or closure introduces. -/
def binder (nested : Nested) : Reader Unit := do
  keyword "for"
  punct "<"
  discard <| separated (seesPunct ">") "," do
    attributes nested
    if ← sees isName then typeParameter nested
    else if ← sees isLifetime then lifetimeParameter
    else if ← seesKeyword "const" then constantParameter nested
    else expected ["identifier", "lifetime", shown "const"]
  punct ">"

def binder? (nested : Nested) : Reader Bool := do
  let seen ← seesKeyword "for"
  if seen then binder nested
  return seen

/-- One parameter of an item, and whether it is a lifetime. -/
def parameter (nested : Nested) : Reader Bool := do
  attributes nested
  if ← sees isLifetime then
    lifetimeParameter
    return true
  else
    if ← sees isName then typeParameter nested
    else if ← seesKeyword "const" then constantParameter nested
    else if ← seesKeyword "_" then take 1
    else expected ["lifetime", "identifier", shown "const"]
    return false

/-- The parameters of an item: whether there are any, and whether they have brackets.
Brackets that hold none are not copied. -/
def parameters (nested : Nested) : Reader (Bool × Bool) := do
  if ← seesPunct "<" then
    let (items, tokens) ← apart <| angled (parameter nested) id (punct ",")
    unless items.isEmpty do write tokens
    return (!items.isEmpty, true)
  else return (false, false)

/-- Angle brackets that hold parameters rather than the beginning of a path. -/
def parametersAhead : List Token → Bool
  | .punct '<' _ :: rest =>
    let named := isLifetime rest || isName rest
    let after := rest.drop 1
    isPunct ">" rest || isPunct "#" rest || isKeyword "const" rest ||
      named && (isPunct ">" after || isPunct "," after || isPunct "=" after ||
        isPunct ":" after && !isPunct "::" after)
  | _ => false

/-- What ends the conditions on parameters. -/
def conditionsEnded : Reader Bool := do
  return (← atEnd) || (← sees (isGroup .brace)) ||
    (← seesAny (["," , ";", "="].map isPunct)) || (← seesPunct ":") && !(← seesPunct "::")

/-- A condition on a lifetime or on a type. -/
def condition (nested : Nested) : Reader Unit := do
  if (← sees isLifetime) && (← seesAfter 1 (isPunct ":")) then
    take 2
    sum (return (← conditionsEnded) || (← seesPunct ":")) lifetime
  else
    discard <| binder? nested
    discard <| nested.type true
    punct ":"
    sum conditionsEnded nested.bound

/-- The conditions on an item's parameters, and whether the word for them is there.
If none follows, it is not copied. -/
def conditions (nested : Nested) : Reader Bool := do
  if ← seesKeyword "where" then
    let (_, tokens) ← apart do
      take 1
      if ← sees parametersAhead then throw .whereParameters
      repeated do
        if ← conditionsEnded then return false
        condition nested
        punct? ","
    if 1 < tokens.length then write tokens
    return true
  else return false

end RecordBinding.Reader
