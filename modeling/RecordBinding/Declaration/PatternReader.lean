import RecordBinding.Declaration.Member
import RecordBinding.Declaration.TypeReader

namespace RecordBinding.Reader

/-- What a pattern may begin with. -/
def patternAlternatives : List (String × (List Token → Bool)) := [("identifier", isName),
  ("`::`", isPunct "::"), ("`<`", isPunct "<"), ("`_`", isKeyword "_"), ("literal", isLiteral),
  ("`const`", isKeyword "const"), ("`ref`", isKeyword "ref"), ("`mut`", isKeyword "mut"),
  ("`&`", isPunct "&"), ("parentheses", isGroup .paren), ("square brackets", isGroup .bracket),
  ("`..`", isPunct ".."), ("`const`", isKeyword "const")]

/-- What an end of a range may be in a pattern. -/
def boundaryAlternatives : List String := ["literal", "identifier", "`::`", "`<`", "`self`",
  "`Self`", "`super`", "`crate`", "`const`"]

/-- A sign that separates alternatives and is not part of another sign. -/
def isAlternation (tokens : List Token) : Bool :=
  isPunct "|" tokens && !isPunct "||" tokens && !isPunct "|=" tokens

/-- Alternative patterns. A sign in front of the first one makes alternatives of it even
if it is the only one. -/
def alternatives (nested : Nested) : Reader PatternForm := do
  let leading ← punct? "|"
  let first ← nested.pattern
  let further ← many do
    if ← sees isAlternation then
      take 1
      return some (← nested.pattern)
    else return none
  return if leading || !further.isEmpty then .other else first

/-- An end of a range, if it is given. -/
def boundary (nested : Nested) : Reader Bool := do
  if (← atEnd) || (← seesAny (["|", "=", ",", ";"].map isPunct)) ||
      (← seesPunct ":") && !(← seesPunct "::") || (← seesKeyword "if") then
    return false
  else if ← sees isLiteral then
    literal
    return true
  else if ← sees isPathStart then
    discard <| anyPath nested true
    return true
  else if ← keyword? "const" then
    blockExpression nested
    return true
  else expected boundaryAlternatives

/-- The dots of a range. A closed one has an equals sign after them, or in older texts
a third dot, for which the equals sign is copied. -/
def patternDots : Reader Bool := do
  if ← punct? "..=" then return true
  else if ← seesPunct "..." then
    uncopied (take 3)
    write [.punct '.' true, .punct '.' true, .punct '=' false]
    return true
  else
    punct ".."
    return false

/-- The rest of a range that has a beginning. A closed range has an end. -/
def rangePattern (nested : Nested) : Reader PatternForm := do
  let closed ← patternDots
  let ended ← boundary nested
  if closed && !ended then expected ["range upper bound"]
  return if ended then .other else .openRange

/-- A range without a beginning. Without an end it stands for what is left over. -/
def endedRange (nested : Nested) : Reader PatternForm := do
  let closed ← punct? "..="
  unless closed do punct ".."
  let ended ← boundary nested
  if closed && !ended then expected ["range upper bound"]
  return if ended then .openRange else .rest

/-- A field of a pattern. A name alone may have marks in front and binds the field. -/
def fieldPattern (nested : Nested) : Reader Unit := do
  let marked ← seesAny (["box", "ref", "mut"].map isKeyword)
  discard <| keyword? "box"
  discard <| keyword? "ref"
  discard <| keyword? "mut"
  if marked then discard name
  else
    let named ← member
    if !named || (← seesPunct ":") then
      punct ":"
      discard <| alternatives nested

def structPattern (nested : Nested) : Reader Unit :=
  inside .brace <| repeated do
    if ← atEnd then return false
    attributes nested
    if ← punct? ".." then return false
    fieldPattern nested
    if ← atEnd then return false
    punct ","
    return true

/-- A pattern that begins with a path. -/
def pathPattern (nested : Nested) : Reader PatternForm := do
  let (qualified, p) ← anyPath nested true
  if !qualified && p.plain && (← sees isBang) then
    take 1
    discard anyGroup
    return .other
  else if ← sees (isGroup .brace) then
    structPattern nested
    return .other
  else if ← sees (isGroup .paren) then
    inside .paren <| discard <| commaSeparated (alternatives nested)
    return .other
  else if ← seesPunct ".." then rangePattern nested
  else return .other

/-- A name to which what matches is bound. -/
def namePattern (nested : Nested) : Reader Unit := do
  discard <| keyword? "ref"
  discard <| keyword? "mut"
  nameOr ["self"]
  if ← punct? "@" then discard nested.pattern

def slicePattern (nested : Nested) : Reader Unit :=
  inside .bracket <| discard <| commaSeparated do
    if (← alternatives nested) = .openRange then throw .openRangeInSlice

/-- Names after which something shows that they are the beginning of a path. -/
def isPathPattern (tokens : List Token) : Bool :=
  let after := tokens.drop 1
  isName tokens && (isPunct "::" after || isPunct "!" after || isGroup .brace after ||
      isGroup .paren after || isPunct ".." after) ||
    isKeyword "self" tokens && isPunct "::" after ||
    isPunct "::" tokens || isPunct "<" tokens ||
    ["Self", "super", "crate"].any (isKeyword · tokens)

/-- A pattern without alternatives. -/
def patternReading (nested : Nested) : Reader PatternForm := do
  if ← sees isPathPattern then pathPattern nested
  else if ← keyword? "_" then return .other
  else if ← seesKeyword "box" then
    verbatim do
      take 1
      discard nested.pattern
    return .verbatim
  else if (← seesPunct "-") || (← sees isLiteral) || (← seesKeyword "const") then
    discard <| boundary nested
    if ← seesPunct ".." then rangePattern nested else return .other
  else if (← seesAny (["ref", "mut", "self"].map isKeyword)) || (← sees isName) then
    namePattern nested
    return .other
  else if ← punct? "&" then
    discard <| keyword? "mut"
    discard nested.pattern
    return .other
  else if ← sees (isGroup .paren) then
    inside .paren <| discard <| commaSeparated (alternatives nested)
    return .other
  else if ← sees (isGroup .bracket) then
    slicePattern nested
    return .other
  else if (← seesPunct "..") && !(← seesPunct "...") then endedRange nested
  else refuse patternAlternatives

end RecordBinding.Reader
