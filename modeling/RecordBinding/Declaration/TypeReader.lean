import RecordBinding.Declaration.BoundReader

namespace RecordBinding

/-- What a type turns out to be, apart from its copy: a form whose parts matter, a
single bound, a single bound in parentheses, or any other form. -/
inductive TypeForm
  | known (t : TypeExpr)
  | bound
  | grouped (inner : List Token)
  | written

/-- What the content of parentheses turns out to be. -/
inductive ParenContent
  | tuple | lifetimes | relaxed
  | type (t : TypeReading)

/-- The type of a form, given its copy. -/
def TypeForm.reading (tokens : List Token) : TypeForm → TypeReading
  | known t =>
    match t with
    | .path .. | .applied .. => ⟨t, some tokens⟩
    | _ => ⟨t, none⟩
  | bound => ⟨.written tokens, some tokens⟩
  | grouped inner => ⟨.written tokens, some inner⟩
  | written => ⟨.written tokens, none⟩

namespace Reader

/-- What a type may begin with. -/
def typeAlternatives : List String := ["`for`", "parentheses", "`fn`", "`unsafe`", "`extern`",
  "identifier", "`::`", "`<`", "`dyn`", "square brackets", "`*`", "`&`", "`!`", "`impl`", "`_`",
  "lifetime"]

/-- What may follow parameters that a type introduces. -/
def boundTypeAlternatives : List String := ["identifier", "`fn`", "`unsafe`", "`extern`", "`super`",
  "`self`", "`Self`", "`crate`"]

/-- Signs of addition with a bound after each. -/
def plusBounds (nested : Nested) : Reader Bool := do
  let more ← many do
    if ← punct? "+" then return some (← bound nested false false)
    else return none
  return !more.isEmpty

/-- A type that is a sum of bounds, of which one at least has to be a trait. -/
def object (nested : Nested) (allowPlus : Bool) : Reader Unit := do
  let kinds ← bounds nested allowPlus false false
  unless kinds.contains .trait do throw .objectWithoutTrait

/-- A single type in parentheses is grouping, several are a tuple. -/
def parenContent (nested : Nested) : Reader ParenContent := do
  if ← atEnd then return .tuple
  else if ← sees isLifetime then
    object nested true
    return .lifetimes
  else if ← seesPunct "?" then
    discard <| traitBound nested false
    return .relaxed
  else
    let first ← nested.type true
    if ← punct? "," then
      discard <| commaSeparated (nested.type true)
      return .tuple
    else return .type first

/-- A type that begins with parentheses. What stands in them may be the first of
several bounds, and then the parentheses are its own. -/
def parenthesizedType (nested : Nested) (allowPlus : Bool) : Reader TypeForm :=
  insideThen .paren (parenContent nested) fun content tokens => do
    let sum ← seesPunct "+"
    match content with
    | .type ⟨_, some bound⟩ =>
      if allowPlus && sum then
        write [.group .paren bound]
        discard <| plusBounds nested
        return .written
    | _ => pure ()
    write [.group .paren tokens]
    match content with
    | .tuple => return .written
    | .lifetimes => return .known (.paren (.written tokens))
    | .relaxed => return if ← plusBounds nested then .written else .grouped tokens
    | .type t => return .known (.paren t.type)

/-- A parameter of a function's type. The one in front may be the receiver, which is
then kept as it is written. -/
def functionParameter (nested : Nested) (first : Bool) : Reader Unit := do
  let isMut (tokens : List Token) : Bool :=
    first && isKeyword "mut" tokens && isKeyword "self" (tokens.drop 1)
  let isNamed (tokens : List Token) : Bool :=
    (isName tokens || isKeyword "_" tokens || first && isKeyword "self" tokens) &&
      isPunct ":" (tokens.drop 1) && !isPunct "::" (tokens.drop 1)
  let changing ← sees isMut
  discard <| verbatimIf id do
    if changing then take 1
    let named ← sees isNamed
    let receiver := named && (← seesKeyword "self")
    if named then take 2
    if !receiver && (← sees isMut) then
      take 2
      return true
    else if changing && !named then
      take 1
      return true
    else
      discard <| nested.type true
      return changing

/-- The mark of further parameters, with a name perhaps. -/
def isVariadic (tokens : List Token) : Bool :=
  isPunct "..." tokens || (isName tokens || isKeyword "_" tokens) && isPunct ":" (tokens.drop 1) &&
    isPunct "..." (tokens.drop 2)

/-- The parameters of a function's type. The mark of further ones ends them. -/
def functionParameters (nested : Nested) : Reader Unit :=
  discard <| iterate (fun first => do
    if ← atEnd then return none
    attributes nested
    if ← sees isVariadic then
      unless ← seesPunct "..." do take 2
      take 3
      discard <| punct? ","
      return none
    attributes nested
    functionParameter nested first
    if ← atEnd then return none
    punct ","
    return some false) true

/-- The calling convention of a function. -/
def abi? : Reader Unit := do
  if ← keyword? "extern" then
    match ← input with
    | .literal ⟨_, .string _⟩ :: _ => take 1
    | _ => return ()

def functionType (nested : Nested) : Reader Unit := do
  discard <| keyword? "unsafe"
  abi?
  keyword "fn"
  insideThen .paren (functionParameters nested) fun _ tokens => do
    write [.group .paren tokens]
    returnType nested false

/-- A type that begins with a path: the path, a call of a macro, or a sum of bounds
of which the path is the first. A call does without the parameters in front. -/
def pathType (nested : Nested) (introduced : List Token) (allowPlus : Bool) : Reader TypeForm := do
  let ((qualified, p), tokens) ← apart (anyPath nested false)
  if !qualified && p.plain && (← sees isBang) then
    write tokens
    take 1
    discard anyGroup
    return .written
  else
    write (introduced ++ tokens)
    if qualified then return .known (.qualified p.head.last tokens)
    else if allowPlus && (← seesPunct "+") then
      repeated do
        if ← punct? "+" then
          if ← sees isBoundStart then
            discard <| bound nested false false
            return true
        return false
      return .written
    else return if introduced.isEmpty then .known p.toType else .bound

/-- A type in square brackets, with a length perhaps. -/
def arrayType (nested : Nested) : Reader Unit :=
  inside .bracket do
    discard <| nested.type true
    if ← punct? ";" then discard <| nested.expression true

/-- A call of something built in, which is not looked into. -/
def isBuiltin (tokens : List Token) : Bool :=
  isKeyword "builtin" tokens && isPunct "#" (tokens.drop 1)

def builtin : Reader Unit := do
  take 2
  discard name
  inside .paren do take (← input).length

def typeForm (nested : Nested) (allowPlus : Bool) : Reader TypeForm := do
  let (introducing, introduced) ← apart (binder? nested)
  if introducing && !(← sees fun tokens => Attribute.isSegment tokens ||
      ["fn", "unsafe", "extern"].any (isKeyword · tokens)) then
    expected boundTypeAlternatives
  else if ← sees (isGroup .paren) then parenthesizedType nested allowPlus
  else if ← seesAny (["fn", "unsafe", "extern"].map isKeyword) then
    write introduced
    functionType nested
    return .written
  else if ← sees isBuiltin then
    write introduced
    builtin
    return .written
  else if ← sees isPathStart then pathType nested introduced allowPlus
  else if ← seesKeyword "dyn" then
    discard <| verbatimIf id do
      take 1
      let star ← punct? "*"
      object nested allowPlus
      return star
    return .written
  else if ← sees (isGroup .bracket) then
    arrayType nested
    return .written
  else if ← punct? "*" then
    if ← seesAny (["const", "mut"].map isKeyword) then take 1
    else expected [shown "const", shown "mut"]
    discard <| nested.type false
    return .written
  else if ← punct? "&" then
    if ← sees isLifetime then take 1
    discard <| keyword? "mut"
    discard <| nested.type false
    return .written
  else if ← punct? "!" then return .written
  else if ← keyword? "impl" then
    let kinds ← bounds nested allowPlus true true
    if kinds.contains .trait then return .written else throw .implWithoutTrait
  else if ← keyword? "_" then return .written
  else if ← sees isLifetime then
    object nested true
    return .written
  else expected typeAlternatives

/-- A type. Where a sum would be ambiguous, it is not allowed. -/
def typeReading (nested : Nested) (allowPlus : Bool) : Reader TypeReading := do
  let (form, tokens) ← copied (typeForm nested allowPlus)
  return form.reading tokens

end Reader

end RecordBinding
