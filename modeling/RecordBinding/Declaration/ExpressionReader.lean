import RecordBinding.Declaration.PatternReader

namespace RecordBinding.Reader

/-- The signs between two operands. One that begins with another one comes before
it. -/
def operators : List (String × Precedence) := [("<<=", .assign), (">>=", .assign), ("&&", .and),
  ("||", .or), ("+=", .assign), ("-=", .assign), ("*=", .assign), ("/=", .assign), ("%=", .assign),
  ("^=", .assign), ("&=", .assign), ("|=", .assign), ("<<", .shift), (">>", .shift),
  ("==", .compare), ("<=", .compare), ("!=", .compare), (">=", .compare), ("+", .sum), ("-", .sum),
  ("*", .product), ("/", .product), ("%", .product), ("^", .bitXor), ("&", .bitAnd), ("|", .bitOr),
  ("<", .compare), (">", .compare)]

def operatorAhead (tokens : List Token) : Option (String × Precedence) :=
  operators.find? fun (text, _) => isPunct text tokens

def isAssignment (tokens : List Token) : Bool := isPunct "=" tokens && !isPunct "=>" tokens

/-- How tightly the next tokens bind. What continues no expression is loosest. -/
def precedenceAhead (tokens : List Token) : Precedence :=
  match operatorAhead tokens with
  | some (_, precedence) => precedence
  | none =>
    if isAssignment tokens then .assign
    else if isPunct ".." tokens then .range
    else if isKeyword "as" tokens then .cast
    else .jump

/-- A point that is not the beginning of a range. -/
def isPoint (tokens : List Token) : Bool := isPunct "." tokens && !isPunct ".." tokens

/-- Tokens that can begin an expression. -/
def isExpressionStart (tokens : List Token) : Bool :=
  isAnyIdent tokens && !isKeyword "as" tokens || isGroup .paren tokens || isGroup .bracket tokens ||
    isGroup .brace tokens || isLiteral tokens || isBang tokens ||
    isPunct "-" tokens && !isPunct "-=" tokens && !isPunct "->" tokens ||
    isPunct "*" tokens && !isPunct "*=" tokens || isPunct "|" tokens && !isPunct "|=" tokens ||
    isPunct "&" tokens && !isPunct "&=" tokens || isPunct ".." tokens ||
    isPunct "<" tokens && !isPunct "<=" tokens && !isPunct "<<=" tokens || isPunct "::" tokens ||
    isLifetime tokens || isPunct "#" tokens

/-- An expression that braces follow, so that they cannot be taken for the fields of a
structure. -/
def beforeBraces (nested : Nested) : Reader Unit := discard <| nested.expression false

/-- An expression that may be missing. -/
def expression? (nested : Nested) : Reader Unit := do
  if ← sees isExpressionStart then discard <| nested.expression true

/-- The operand after an operator, with everything that binds tighter. -/
def rightOperand (nested : Nested) (allowStruct : Bool) (precedence : Precedence) : Reader Unit := do
  let operand ← nested.operand allowStruct
  discard <| iterate (fun rhs => do
    let next := precedenceAhead (← input)
    let tighter := precedence.isLooserThan next || next = .assign && precedence = .assign
    if rhs.form ≠ .range && tighter then return some (← nested.continued allowStruct next rhs)
    else return none) operand

/-- What shows that a half-open range has no end. -/
def isRangeEnd (allowStruct : Bool) (tokens : List Token) : Bool :=
  tokens.isEmpty || isPoint tokens || !allowStruct && isGroup .brace tokens ||
    [",", ";", "?", "=>", "=", "+", "/", "%", "^", ">", "<=", "!=", "-=", "*=", "&=", "|=", "<<="].any
      (isPunct · tokens) ||
    isKeyword "as" tokens

/-- The dots of a range, and its end if there is one. -/
def rangeEnd (nested : Nested) (allowStruct : Bool) : Reader Unit := do
  if ← seesPunct "..." then expected [shown "..="]
  let closed ← punct? "..="
  unless closed do punct ".."
  if closed || !(← sees (isRangeEnd allowStruct)) then rightOperand nested allowStruct .range

/-- What must not follow the type of a cast. -/
def castFollower? (tokens : List Token) : Option String :=
  let after := tokens.drop 1
  if isPoint tokens then
    if isKeyword "await" after then some "`.await`"
    else if isName after && (isGroup .paren (after.drop 1) || isPunct "::" (after.drop 1)) then
      some "a method call"
    else some "a field access"
  else if isPunct "?" tokens then some "`?`"
  else if isGroup .bracket tokens then some "indexing"
  else if isGroup .paren tokens then some "a function call"
  else none

/-- One continuation of an expression that does not bind less tightly than it should:
an operator with an operand, an assigned value, an end of a range or a type. -/
def continuation? (nested : Nested) (allowStruct : Bool) (base : Precedence)
    (lhs : ExpressionReading) : Reader (Option ExpressionReading) := do
  let tokens ← input
  let loose := (precedenceAhead tokens).isLooserThan base
  if lhs.form = .range || loose then return none
  else
    match operatorAhead tokens with
    | some (text, precedence) =>
      let comparing := precedence = .compare
      if comparing && lhs.form = .comparison then throw .chainedComparison
      take text.length
      rightOperand nested allowStruct precedence
      return some (lhs.extended (if comparing then .comparison else .other))
    | none =>
      if isAssignment tokens then
        take 1
        rightOperand nested allowStruct .assign
        return some (lhs.extended .other)
      else if isPunct ".." tokens then
        rangeEnd nested allowStruct
        return some (lhs.extended .range)
      else if isKeyword "as" tokens then
        take 1
        discard <| nested.type false
        match castFollower? (← input) with
        | some what => throw (.castFollowed what)
        | none => return some (lhs.extended .other)
      else return none

/-- Everything that continues an expression, down to some tightness. -/
def continuedReading (nested : Nested) (allowStruct : Bool) (base : Precedence)
    (lhs : ExpressionReading) : Reader ExpressionReading :=
  iterate (continuation? nested allowStruct base) lhs

end RecordBinding.Reader
