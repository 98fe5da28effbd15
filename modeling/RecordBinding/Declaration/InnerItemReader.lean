import RecordBinding.Declaration.FieldReader
import RecordBinding.Declaration.SignatureReader

namespace RecordBinding.Reader

/-- Words that an item may begin with, as alternatives. -/
def wordAlternatives (words : List String) : List (String × (List Token → Bool)) :=
  words.map fun word => (shown word, isKeyword word)

/-- What a call of a macro may begin with. -/
def invocationAlternatives : List (String × (List Token → Bool)) :=
  ("identifier", isName) :: wordAlternatives ["self", "super", "crate"] ++ [("`::`", isPunct "::")]

def isInvocationStart (tokens : List Token) : Bool :=
  invocationAlternatives.any fun (_, test) => test tokens

/-- A call of a macro in place of an item, which may define a name. Without braces it
ends in a semicolon. -/
def invocation (mayDefine : Bool) : Reader Unit := do
  discard Attribute.modulePath
  punct "!"
  if mayDefine && ((← sees isName) || (← seesKeyword "try")) then take 1
  if (← anyGroup) ≠ .brace then punct ";"

/-- Items in braces, which may begin with attributes. -/
def bracedItems (nested : Nested) (item : Reader Unit) : Reader Unit :=
  bracedWith nested <| repeated do
    if ← atEnd then return false
    item
    return true

/-- Bounds up to what ends them. Unlike in other places, one sign of addition stands
between two of them. -/
def boundList (nested : Nested) (ended : Reader Bool) : Reader Unit :=
  discard <| separated ended "+" (bound nested false true)

/-- The content of a tree of imported names. A double colon may stand in front of a name
outside of all paths. -/
def useTree (mayBeRooted : Bool) : Nat → Reader Unit
  | 0 => throw .nestedTooDeeply
  | depth + 1 => do
    let leading := (isName :: ["self", "super", "crate", "try"].map isKeyword)
    if ← seesAny leading then
      take 1
      if ← punct? "::" then useTree false depth
      else if ← keyword? "as" then
        if (← sees isName) || (← seesKeyword "_") then take 1
        else expected ["identifier or underscore"]
    else if ← punct? "*" then return ()
    else if ← sees (isGroup .brace) then
      inside .brace <| discard <| commaSeparated do
        let rooted ← if mayBeRooted then punct? "::" else pure false
        useTree (mayBeRooted && !rooted) depth
    else
      expected (["identifier"] ++ ["self", "super", "crate", "try"].map shown ++
        [shown "*", "curly braces"])

def useItem : Reader Bool := do
  keyword "use"
  let rooted ← punct? "::"
  useTree (!rooted) (readingDepth (← input))
  punct ";"
  return false

def externCrate : Reader Bool := do
  take 2
  nameOr ["self"]
  if ← keyword? "as" then nameOr ["_"]
  punct ";"
  return false

/-- Where the conditions of a type stand: in front of its definition, behind it, or in either
place. -/
inductive ConditionsPlace
  | before | after | either
  deriving DecidableEq

/-- A name for a type, after its visibility: whether it is bounded, and whether it is
defined. -/
def typeItem (nested : Nested) (place : ConditionsPlace) : Reader (Bool × Bool) := do
  keyword "type"
  discard name
  discard <| parameters nested
  let bounded ← seesPunct ":"
  afterColon <| boundList nested
    (return (← seesKeyword "where") || (← seesPunct "=") || (← seesPunct ";"))
  let conditioned ← if place ≠ .after then conditions nested else pure false
  let defined ← punct? "="
  if defined then discard <| nested.type true
  if place ≠ .before && !conditioned then discard <| conditions nested
  punct ";"
  return (bounded, defined)

/-- A constant after its keyword: whether it is kept as it is written, which depends on
its being defined where that is required. -/
def constantItem (nested : Nested) (definitionRequired : Bool) : Reader Bool := do
  if (← sees isName) || (← seesKeyword "_") then take 1
  else expected ["identifier", shown "_"]
  let (_, bracketed) ← parameters nested
  punct ":"
  discard <| nested.type true
  let defined ← punct? "="
  if defined then discard <| nested.expression true
  let conditioned ← conditions nested
  punct ";"
  return bracketed || conditioned || definitionRequired && !defined

/-- A variable of the whole program. A definition and a type are both required, or it is
kept as it is written. -/
def staticItem (nested : Nested) : Reader Bool := do
  keyword "static"
  discard <| keyword? "mut"
  discard name
  if ← punct? "=" then
    discard <| nested.expression true
    punct ";"
    return true
  else
    punct ":"
    discard <| nested.type true
    if ← punct? ";" then return true
    else
      punct "="
      discard <| nested.expression true
      punct ";"
      return false

def functionItem (nested : Nested) : Reader Bool := do
  discard <| signature nested false
  if ← punct? ";" then return true
  else
    blockExpression nested
    return false

def moduleItem (nested : Nested) : Reader Bool := do
  discard <| keyword? "unsafe"
  keyword "mod"
  nameOr ["try"]
  if ← punct? ";" then return false
  else if ← sees (isGroup .brace) then
    bracedItems nested nested.item
    return false
  else expected [shown ";", "curly braces"]

/-- Something that is declared here and defined elsewhere. -/
def foreignItem (nested : Nested) : Reader Unit :=
  discard <| verbatimIf id do
    attributes nested
    let visible ← visibility
    if ← seesSignature true then
      let safe ← signature nested true
      let defined ← sees (isGroup .brace)
      if defined then blockExpression nested else punct ";"
      return safe || defined
    else if (← seesKeyword "static") ||
        ((← seesKeyword "unsafe") || (← seesKeyword "safe")) && (← seesAfter 1 (isKeyword "static")) then
      let marked ← (· || ·) <$> keyword? "unsafe" <*> keyword? "safe"
      keyword "static"
      discard <| keyword? "mut"
      discard name
      punct ":"
      discard <| nested.type true
      let defined ← punct? "="
      if defined then discard <| nested.expression true
      punct ";"
      return marked || defined
    else if ← seesKeyword "type" then
      let (bounded, defined) ← typeItem nested .either
      return bounded || defined
    else if !visible && (← sees isInvocationStart) then
      invocation false
      return false
    else
      refuse (wordAlternatives ["fn", "static", "type"] ++
        if visible then [] else invocationAlternatives)

/-- Declarations of what another program defines. -/
def foreignModule (nested : Nested) : Reader Bool := do
  discard <| keyword? "unsafe"
  abi?
  bracedItems nested (foreignItem nested)
  return false

/-- A member of a trait. -/
def traitMember (nested : Nested) : Reader Unit :=
  discard <| verbatimIf id do
    attributes nested
    let visible ← visibility
    let marked := (← keyword? "default") || visible
    if ← seesSignature false then
      discard <| signature nested false
      if ← sees (isGroup .brace) then blockExpression nested
      else unless ← punct? ";" do expected ["curly braces", shown ";"]
      return marked
    else if ← seesKeyword "const" then
      let isFunction (tokens : List Token) : Bool :=
        ["async", "unsafe", "extern", "fn"].any (isKeyword · tokens)
      if ← seesAfter 1 isFunction then
        discard <| signature nested false
        return marked
      else
        take 1
        unless (← sees isName) || (← seesKeyword "_") do
          expected (["identifier"] ++ ["_", "async", "unsafe", "extern", "fn"].map shown)
        let kept ← constantItem nested false
        return kept || marked
    else if ← seesKeyword "type" then
      discard <| typeItem nested .after
      return marked
    else if !marked && (← sees isInvocationStart) then
      invocation false
      return false
    else
      refuse (wordAlternatives ["fn", "const", "type"] ++
        if marked then [] else invocationAlternatives)

/-- The part of a trait after its parameters. -/
def traitBody (nested : Nested) : Reader Bool := do
  afterColon <| boundList nested (return (← seesKeyword "where") || (← sees (isGroup .brace)))
  discard <| conditions nested
  bracedItems nested (traitMember nested)
  return false

def traitItem (nested : Nested) : Reader Bool := do
  discard <| keyword? "unsafe"
  discard <| keyword? "auto"
  keyword "trait"
  discard name
  discard <| parameters nested
  traitBody nested

/-- A trait, or another name for a sum of bounds. -/
def traitOrAlias (nested : Nested) : Reader Bool := do
  keyword "trait"
  discard name
  discard <| parameters nested
  if (← sees (isGroup .brace)) || (← seesPunct ":") || (← seesKeyword "where") then traitBody nested
  else if ← punct? "=" then
    boundList nested (return (← seesKeyword "where") || (← seesPunct ";"))
    discard <| conditions nested
    punct ";"
    return false
  else expected ["curly braces", shown ":", shown "where", shown "="]

/-- A member of an implementation. -/
def implMember (nested : Nested) : Reader Unit :=
  discard <| verbatimIf id do
    attributes nested
    let visible ← visibility
    let undecided ← seesKeyword "default"
    let marked ← if undecided && !(← seesAfter 1 (isPunct "!")) then keyword? "default"
      else pure false
    if ← seesSignature false then functionItem nested
    else if ← keyword? "const" then constantItem nested true
    else if ← seesKeyword "type" then
      let (bounded, defined) ← typeItem nested .after
      return bounded || !defined
    else if !visible && !marked && (← sees isInvocationStart) then
      invocation false
      return false
    else
      refuse ((if marked then [] else wordAlternatives ["default"]) ++
        wordAlternatives ["fn", "const", "type"] ++
        if visible || marked then [] else invocationAlternatives)

/-- An implementation. What only later versions of the language allow is kept as it is
written. -/
def implItem (nested : Nested) (visible : Bool) : Reader Bool := do
  discard <| keyword? "default"
  discard <| keyword? "unsafe"
  keyword "impl"
  if ← sees parametersAhead then discard <| parameters nested
  let constant ← (do
    if (← seesKeyword "const") || (← seesPunct "?") && (← seesAfter 1 (isKeyword "const")) then
      discard <| punct? "?"
      keyword? "const"
    else return false)
  let negative ← (do
    if (← seesPunct "!") && !(← seesAfter 1 (isGroup .brace)) then punct? "!" else return false)
  let subject ← nested.type true
  let isTrait := match subject.type with
    | .path .. | .applied .. => true
    | _ => false
  let forType ← keyword? "for"
  if forType then discard <| nested.type true
  else if negative then throw .negativeInherent
  discard <| conditions nested
  bracedItems nested (implMember nested)
  return visible || constant || forType && !isTrait

/-- The definition of a macro. -/
def macroItem : Reader Bool := do
  keyword "macro"
  discard name
  let bracketed ← sees (isGroup .paren)
  if bracketed then take 1
  if ← sees (isGroup .brace) then take 1
  else expected (if bracketed then ["curly braces"] else ["parentheses", "curly braces"])
  return true

/-- An item after its attributes and visibility, and whether it is kept as it is
written. -/
def innerItemBody (nested : Nested) (visible : Bool) : Reader Bool := do
  let tokens ← input
  let after := tokens.drop 1
  let starts (word : String) : Bool := isKeyword word tokens
  if ← seesSignature false then functionItem nested
  else if starts "extern" then
    if isKeyword "crate" after then externCrate
    else
      let quoted := match after with
        | .literal ⟨_, .string _⟩ :: _ => true
        | _ => false
      if isGroup .brace (if quoted then after.drop 1 else after) then
        if visible then throw (.expected false [shown "extern"]) else foreignModule nested
      else
        take (if quoted then 2 else 1)
        expected (if quoted then ["curly braces"]
          else [shown "crate", "curly braces", "string literal"])
  else if starts "use" then useItem
  else if starts "static" then staticItem nested
  else if starts "const" then
    take 1
    constantItem nested true
  else if starts "unsafe" then
    if isKeyword "trait" after || isKeyword "auto" after && isKeyword "trait" (after.drop 1) then
      traitItem nested
    else if isKeyword "impl" after then implItem nested visible
    else if isKeyword "extern" after then
      if visible then throw (.expected false [shown "extern"]) else foreignModule nested
    else if isKeyword "mod" after then moduleItem nested
    else
      take 1
      refuse (wordAlternatives ["trait", "auto", "impl", "extern", "mod"])
  else if starts "mod" then moduleItem nested
  else if starts "type" then
    let (bounded, defined) ← typeItem nested .before
    return bounded || !defined
  else if starts "struct" then
    take 1
    discard name
    discard <| parameters nested
    discard <| structBody nested
    return false
  else if starts "enum" then
    take 1
    discard name
    discard <| parameters nested
    discard <| enumBody nested
    return false
  else if starts "union" && isName after then
    take 1
    discard name
    discard <| parameters nested
    unionBody nested
    return false
  else if starts "trait" then traitOrAlias nested
  else if starts "auto" && isKeyword "trait" after then traitItem nested
  else if starts "impl" || starts "default" && !isPunct "!" after then implItem nested visible
  else if starts "macro" then macroItem
  else if !visible && isInvocationStart tokens then
    invocation true
    return false
  else
    refuse (wordAlternatives ["fn", "extern", "use", "static", "const", "unsafe", "mod", "type",
        "struct", "enum", "union", "trait", "auto", "impl", "default", "macro"] ++
      if visible then [] else invocationAlternatives)

/-- An item inside of something else. -/
def innerItem (nested : Nested) : Reader Unit :=
  discard <| verbatimIf id do
    attributes nested
    innerItemBody nested (← visibility)

end RecordBinding.Reader
