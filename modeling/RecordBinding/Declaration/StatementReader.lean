import RecordBinding.Declaration.AtomReader

namespace RecordBinding

/-- The kinds of statements. -/
inductive StatementKind
  | invocation | binding | item | expression

namespace Reader

/-- A call of a macro with braces that is a statement of its own, or the definition of
something by a macro. -/
def invocationKind? : Reader (Option StatementKind) := do
  match ← attempt Attribute.modulePath with
  | none => return none
  | some _ =>
    let after := (← input).drop 1
    if !(← seesPunct "!") then return none
    else if isName after || isKeyword "try" after then return some .item
    else if isGroup .brace after && !isPoint (after.drop 1) && !isPunct "?" (after.drop 1) then
      return some .invocation
    else return none

/-- Tokens that can only begin an item. -/
def isItemStart (tokens : List Token) : Bool :=
  let after := tokens.drop 1
  let isSignature (tokens : List Token) : Bool :=
    ["unsafe", "extern", "fn"].any (isKeyword · tokens)
  ["pub", "extern", "use", "fn", "mod", "type", "struct", "enum", "trait", "impl", "macro"].any
      (isKeyword · tokens) ||
    isKeyword "crate" tokens && !isPunct "::" after ||
    isKeyword "static" tokens && (isKeyword "mut" after || isName after) ||
    isKeyword "const" tokens &&
      !(isGroup .brace after || isKeyword "static" after ||
        isKeyword "async" after && !isSignature (after.drop 1) ||
        isKeyword "move" after || isPunct "|" after) ||
    isKeyword "unsafe" tokens && !isGroup .brace after ||
    isKeyword "async" tokens && isSignature after ||
    isKeyword "union" tokens && isName after ||
    isKeyword "auto" tokens && isKeyword "trait" after ||
    isKeyword "default" tokens && (isKeyword "unsafe" after || isKeyword "impl" after)

/-- The kind of the statement that begins here, after its attributes. -/
def statementKind : Reader StatementKind := do
  match ← ahead invocationKind? with
  | some kind => return kind
  | none =>
    if ← seesKeyword "let" then return .binding
    else if ← sees isItemStart then return .item
    else return .expression

/-- A statement that binds names. What binds none has to be left in a block, which must not
follow braces. -/
def letStatement (nested : Nested) : Reader Unit := do
  keyword "let"
  discard nested.pattern
  if ← punct? ":" then discard <| nested.type true
  if ← punct? "=" then
    let (_, tokens) ← copied <| nested.expression true
    if !(tokens.getLast?.any fun t => isGroup .brace [t]) then
      if ← keyword? "else" then block nested
  punct ";"

/-- A statement, and whether it may be followed by another one. -/
def statement (nested : Nested) : Reader Bool := do
  match ← ahead (attributes nested *> statementKind) with
  | .invocation =>
    attributes nested
    discard Attribute.modulePath
    take 1
    discard anyGroup
    discard <| punct? ";"
    return true
  | .binding =>
    attributes nested
    letStatement nested
    return true
  | .item =>
    nested.item
    return true
  | .expression =>
    let (_, attributes) ← apart (attributes nested)
    let (e, tokens) ← apart nested.body
    unless e.verbatim do write attributes
    write tokens
    return (← punct? ";") || e.form = .block || e.form = .bracedInvocation

/-- Statements up to the end of the tokens. An expression that is no block can only be
the last one, unless a semicolon follows it. -/
def statementsReading (nested : Nested) : Reader Unit :=
  repeated do
    repeated (punct? ";")
    if ← atEnd then return false
    let closed ← statement nested
    if !closed && !(← atEnd) then throw .semicolonMissing
    return true

end Reader

end RecordBinding
