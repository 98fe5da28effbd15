import RecordBinding.Declaration.ExpressionReader

namespace RecordBinding.Reader

def conditional (nested : Nested) : Reader Unit :=
  repeated do
    keyword "if"
    beforeBraces nested
    block nested
    if ← keyword? "else" then
      if ← seesKeyword "if" then return true
      else if ← sees (isGroup .brace) then block nested
      else expected [shown "if", "curly braces"]
    return false

def whileLoop (nested : Nested) : Reader Unit := do
  keyword "while"
  beforeBraces nested
  blockExpression nested

def forLoop (nested : Nested) : Reader Unit := do
  keyword "for"
  discard <| alternatives nested
  keyword "in"
  beforeBraces nested
  blockExpression nested

def endlessLoop (nested : Nested) : Reader Unit := do
  keyword "loop"
  blockExpression nested

/-- A loop or block after its label. -/
def labelled (nested : Nested) : Reader Unit := do
  lifetime
  punct ":"
  if ← seesKeyword "while" then whileLoop nested
  else if ← seesKeyword "for" then forLoop nested
  else if ← seesKeyword "loop" then endlessLoop nested
  else if ← sees (isGroup .brace) then blockExpression nested
  else expected ["loop or block expression"]

/-- One case of a match. Unless its value is a block, only the last one does without a
comma. -/
def matchArm (nested : Nested) : Reader Unit := do
  attributes nested
  discard <| alternatives nested
  if ← keyword? "if" then discard <| nested.expression true
  punct "=>"
  let value ← nested.body
  if value.form ≠ .block && !(← atEnd) then punct ","
  else discard <| punct? ","

def matchExpression (nested : Nested) : Reader Unit := do
  keyword "match"
  beforeBraces nested
  bracedWith nested <| repeated do
    if ← atEnd then return false
    matchArm nested
    return true

/-- A parameter of a closure. Attributes are not copied in front of a pattern that is
kept as it is written. -/
def closureParameter (nested : Nested) : Reader Unit := do
  let (_, attributes) ← apart (attributes nested)
  let (form, pattern) ← apart nested.pattern
  let typed ← seesPunct ":"
  unless form = .verbatim && !typed do write attributes
  write pattern
  if ← punct? ":" then discard <| nested.type true

def closure (nested : Nested) (allowStruct : Bool) : Reader Unit := do
  discard <| binder? nested
  for word in ["const", "static", "async", "move"] do
    discard <| keyword? word
  punct "|"
  discard <| separated (seesPunct "|") "," (closureParameter nested)
  punct "|"
  if ← seesPunct "->" then
    returnType nested true
    block nested
  else discard <| nested.expression allowStruct

def isClosure (tokens : List Token) : Bool :=
  let after := tokens.drop 1
  isPunct "|" tokens || isKeyword "move" tokens ||
    isKeyword "for" tokens && parametersAhead after ||
    isKeyword "const" tokens && !isGroup .brace after || isKeyword "static" tokens ||
    isKeyword "async" tokens && (isPunct "|" after || isKeyword "move" after)

/-- A block that runs later, perhaps with what it uses moved into it. -/
def isAsyncBlock (tokens : List Token) : Bool :=
  let after := tokens.drop 1
  isKeyword "async" tokens &&
    (isGroup .brace after || isKeyword "move" after && isGroup .brace (after.drop 1))

/-- The fields of a structure, up to the value that gives the others. -/
def structFields (nested : Nested) : Reader Unit :=
  inside .brace <| repeated do
    if ← atEnd then return false
    if ← punct? ".." then
      unless ← atEnd do discard <| nested.expression true
      return false
    attributes nested
    let named ← member
    if !named || (← seesPunct ":") then
      punct ":"
      discard <| nested.expression true
    if ← atEnd then return false
    punct ","
    return true

/-- An expression that begins with a path: the path, a call of a macro or a
structure. -/
def pathExpression (nested : Nested) (allowStruct : Bool) : Reader ExpressionReading := do
  let (qualified, p) ← anyPath nested true
  if !qualified && p.plain && (← sees isBang) then
    take 1
    let delimiter ← anyGroup
    return if delimiter = .brace then .ofForm .bracedInvocation else .plain
  else
    if allowStruct && (← sees (isGroup .brace)) then structFields nested
    return .plain

/-- A single expression in parentheses is grouping, several are a tuple. -/
def parenthesizedExpression (nested : Nested) : Reader ExpressionReading :=
  inside .paren do
    if ← atEnd then return .plain
    let first ← nested.expression true
    if ← atEnd then return { ExpressionReading.plain with value := .grouped first.value }
    punct ","
    discard <| commaSeparated (nested.expression true)
    return .plain

def arrayExpression (nested : Nested) : Reader Unit :=
  inside .bracket do
    unless ← atEnd do
      discard <| nested.expression true
      unless ← atEnd do
        if ← punct? "," then discard <| commaSeparated (nested.expression true)
        else if ← punct? ";" then discard <| nested.expression true
        else expected [shown ",", shown ";"]

/-- What leaves a loop or block. A value that begins with a label needs
parentheses. -/
def breakExpression (nested : Nested) (allowStruct : Bool) : Reader Unit := do
  keyword "break"
  if (← sees isLifetime) && (← seesAfter 1 (isPunct ":")) then
    discard <| nested.expression true
    throw .unparenthesizedJump
  if ← sees isLifetime then take 1
  if (← sees isExpressionStart) && (allowStruct || !(← sees (isGroup .brace))) then
    discard <| nested.expression allowStruct

/-- A condition that binds names. -/
def letExpression (nested : Nested) (allowStruct : Bool) : Reader Unit := do
  keyword "let"
  discard <| alternatives nested
  punct "="
  let lhs ← nested.operand allowStruct
  discard <| nested.continued allowStruct .compare lhs

/-- What an expression may consist of before anything is said in front of it or after
it. -/
def atom (nested : Nested) (allowStruct : Bool) : Reader ExpressionReading := do
  let tokens ← input
  let after := tokens.drop 1
  let plainly (reader : Reader Unit) : Reader ExpressionReading := do
    reader
    return .plain
  let asBlock (reader : Reader Unit) : Reader ExpressionReading := do
    reader
    return .block
  let asWritten (reader : Reader Unit) : Reader ExpressionReading := do
    verbatim reader
    return { ExpressionReading.plain with verbatim := true }
  if isLiteral tokens then
    literal
    match tokens with
    | .literal ⟨_, .integer value⟩ :: _ =>
      return { ExpressionReading.plain with value := .literal value }
    | _ => return .plain
  else if isAsyncBlock tokens then plainly do
    take 1
    discard <| keyword? "move"
    block nested
  else if isKeyword "try" tokens && isGroup .brace after then asBlock do
    take 1
    block nested
  else if isClosure tokens then plainly (closure nested allowStruct)
  else if isBuiltin tokens then asWritten builtin
  else if isPathStart tokens ||
      isKeyword "try" tokens && (isPunct "!" after || isPunct "::" after) then
    pathExpression nested allowStruct
  else if isGroup .paren tokens then parenthesizedExpression nested
  else if isKeyword "break" tokens then plainly (breakExpression nested allowStruct)
  else if isKeyword "continue" tokens then plainly do
    take 1
    if ← sees isLifetime then take 1
  else if isKeyword "return" tokens then plainly do
    take 1
    expression? nested
  else if isKeyword "become" tokens then asWritten do
    take 1
    discard <| nested.expression true
  else if isGroup .bracket tokens then plainly (arrayExpression nested)
  else if isKeyword "let" tokens then plainly (letExpression nested allowStruct)
  else if isKeyword "if" tokens then asBlock (conditional nested)
  else if isKeyword "while" tokens then asBlock (whileLoop nested)
  else if isKeyword "for" tokens then asBlock (forLoop nested)
  else if isKeyword "loop" tokens then asBlock (endlessLoop nested)
  else if isKeyword "match" tokens then asBlock (matchExpression nested)
  else if isKeyword "yield" tokens then plainly do
    take 1
    expression? nested
  else if isKeyword "unsafe" tokens || isKeyword "const" tokens then asBlock do
    take 1
    blockExpression nested
  else if isGroup .brace tokens then asBlock (blockExpression nested)
  else if isPunct ".." tokens then
    rangeEnd nested allowStruct
    return .ofForm .range
  else if isKeyword "_" tokens then plainly (take 1)
  else if isLifetime tokens then asBlock (labelled nested)
  else expected ["an expression"]

/-- What may follow an atom at once: a call, a member, an index or the sign that passes
errors on. The ends of a range are no members of it. -/
def trailer (nested : Nested) (isRange : Bool) : Reader Bool := do
  let arguments := inside .paren <| discard <| commaSeparated (nested.expression true)
  if ← sees (isGroup .paren) then
    arguments
    return true
  else if !isRange && (← sees isPoint) then
    take 1
    let pointLeft ← fractionalMembers?
    if pointLeft = some false then return true
    if ← keyword? "await" then return true
    let named ← member
    let turbofish := named && (← seesPunct "::")
    if turbofish then discard <| angleArguments nested
    if named && (turbofish || (← sees (isGroup .paren))) then arguments
    return true
  else if ← sees (isGroup .bracket) then
    inside .bracket <| discard <| nested.expression true
    return true
  else if isRange then return false
  else punct? "?"

/-- An expression with all that follows it at once. -/
def trailed (nested : Nested) (e : ExpressionReading) : Reader ExpressionReading :=
  iterate (fun e => do
    if ← trailer nested (e.form = .range) then return some .plain else return none) e

/-- An operand with the signs in front of it. What is kept as it is written includes its
attributes. -/
def operandReading (nested : Nested) (allowStruct : Bool) : Reader ExpressionReading :=
  verbatimIf (·.verbatim) do
    let attributed ← seesPunct "#"
    attributes nested
    if ← punct? "&" then
      if (← seesKeyword "raw") &&
          ((← seesAfter 1 (isKeyword "mut")) || (← seesAfter 1 (isKeyword "const"))) then
        take 2
      else discard <| keyword? "mut"
      discard <| nested.operand allowStruct
      return .plain
    else if ← seesAny (["*", "!"].map isPunct) then
      take 1
      discard <| nested.operand allowStruct
      return .plain
    else if ← punct? "-" then
      let operand ← nested.operand allowStruct
      return { ExpressionReading.plain with value := .negated operand.value }
    else
      let e ← trailed nested (← atom nested allowStruct)
      if attributed && e.form = .range then throw .rangeAttributes
      return e

def expressionReading (nested : Nested) (allowStruct : Bool) : Reader ExpressionReading := do
  continuedReading nested allowStruct .jump (← operandReading nested allowStruct)

/-- Tokens that begin a block or what ends in one, rather than an operand. -/
def isBlockStart (tokens : List Token) : Bool :=
  let after := tokens.drop 1
  ["if", "while", "loop", "match", "unsafe"].any (isKeyword · tokens) ||
    isKeyword "for" tokens && !parametersAhead after ||
    (isKeyword "try" tokens || isKeyword "const" tokens) && isGroup .brace after ||
    isGroup .brace tokens || isLifetime tokens

/-- An expression that stands for itself. A block ends it, unless a member of the block
is meant. -/
def bodyReading (nested : Nested) : Reader ExpressionReading := do
  let (_, attributes) ← apart (attributes nested)
  let (first, tokens) ← apart do
    if ← sees isBlockStart then atom nested true else operandReading nested true
  unless first.verbatim do write attributes
  write tokens
  if first.form ≠ .block then continuedReading nested true .jump first
  else if (← sees isPoint) || (← seesPunct "?") then
    continuedReading nested true .jump (← trailed nested first)
  else return first

end RecordBinding.Reader
