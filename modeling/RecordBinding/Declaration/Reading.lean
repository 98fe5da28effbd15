import RecordBinding.Declaration.Problem

namespace RecordBinding

/-- How far a list of tokens is read. What is read is copied, last token first, and
the copy is how the text is written when it is repeated: a few things are ordered
or spelled otherwise there. Tokens that a group's reader leaves behind do not stop
the reading, but the first such group is remembered, since the text is refused for
it in the end. -/
structure Reading where
  input : List Token
  copy : List Token
  unread : Option Delimiter

/-- The beginning of a reading. -/
def Reading.start (tokens : List Token) : Reading := ⟨tokens, [], none⟩

/-- Readers of a part of a declaration. -/
abbrev Reader : Type → Type := StateT Reading (Except Problem)

/-- How deep readers may go. A level is entered only with tokens of its own, apart
from a few on the way to them. -/
def readingDepth (tokens : List Token) : Nat := 4 * Token.totalSize tokens + 16

namespace Reader

variable {α β : Type}

def input : Reader (List Token) := return (← get).input

def atEnd : Reader Bool := return (← input).isEmpty

/-- Refusal at the present token. -/
def expected (alternatives : List String) : Reader α := do
  throw (.expected (← input).isEmpty alternatives)

/-- The words that cannot name anything unless they are marked. -/
def keywords : List String := ["_", "abstract", "as", "async", "await", "become", "box", "break",
  "const", "continue", "crate", "do", "dyn", "else", "enum", "extern", "false", "final", "fn",
  "for", "if", "impl", "in", "let", "loop", "macro", "match", "mod", "move", "mut", "override",
  "priv", "pub", "ref", "return", "Self", "self", "static", "struct", "super", "trait", "true",
  "try", "type", "typeof", "unsafe", "unsized", "use", "virtual", "where", "while", "yield"]

/-- Punctuation of one or more characters at the head of the tokens. -/
def startsWith : List Char → List Token → Bool
  | [], _ => true
  | [c], .punct d _ :: _ => c == d
  | c :: cs, .punct d joint :: rest => c == d && joint && startsWith cs rest
  | _, _ => false

def isPunct (text : String) : List Token → Bool := startsWith text.toList

def isName : List Token → Bool
  | .ident word :: _ => !keywords.contains word
  | _ => false

def isAnyIdent : List Token → Bool
  | .ident _ :: _ => true
  | _ => false

def isKeyword (word : String) : List Token → Bool
  | .ident text :: _ => text == word
  | _ => false

def isLifetime : List Token → Bool
  | .lifetime _ :: _ => true
  | _ => false

def isGroup (delimiter : Delimiter) : List Token → Bool
  | .group d _ :: _ => d == delimiter
  | _ => false

/-- A literal may be a truth value, or have a sign in front. -/
def isLiteral : List Token → Bool
  | .literal _ :: _ => true
  | .ident word :: _ => word == "true" || word == "false"
  | .punct '-' _ :: .literal literal :: _ => literal.text.toList.head?.any Char.isDigit
  | _ => false

def sees (test : List Token → Bool) : Reader Bool := return test (← input)

def seesPunct (text : String) : Reader Bool := sees (isPunct text)

def seesKeyword (word : String) : Reader Bool := sees (isKeyword word)

def seesAny (tests : List (List Token → Bool)) : Reader Bool :=
  sees fun tokens => tests.any (· tokens)

/-- Looking past some tokens. -/
def seesAfter (count : Nat) (test : List Token → Bool) : Reader Bool :=
  sees fun tokens => test (tokens.drop count)

/-- Refusal at the present token of what is not among some alternatives. One that is
there but was turned down for what follows it is not named. -/
def refuse (alternatives : List (String × (List Token → Bool))) : Reader α := do
  let tokens ← input
  expected ((alternatives.filter fun (_, test) => !test tokens).map (·.1))

/-- The next tokens, so many of them, are read. -/
def take (count : Nat) : Reader Unit :=
  modify fun r => { r with
    input := r.input.drop count
    copy := (r.input.take count).reverse ++ r.copy }

/-- Tokens that are copied although they are not in the text. -/
def write (tokens : List Token) : Reader Unit :=
  modify fun r => { r with copy := tokens.reverse ++ r.copy }

/-- A part whose copy is kept apart. -/
def apart (part : Reader α) : Reader (α × List Token) := do
  let before := (← get).copy
  modify fun r => { r with copy := [] }
  let x ← part
  let copy := (← get).copy
  modify fun r => { r with copy := before }
  return (x, copy.reverse)

/-- A part and its copy. -/
def copied (part : Reader α) : Reader (α × List Token) := do
  let (x, tokens) ← apart part
  write tokens
  return (x, tokens)

/-- A part that is read without being copied. -/
def uncopied (part : Reader α) : Reader α := Prod.fst <$> apart part

/-- A part that tells in the end whether it is copied token for token. -/
def verbatimIf (test : α → Bool) (part : Reader α) : Reader α := do
  let before ← input
  let (x, tokens) ← apart part
  let rest ← input
  write (if test x then before.take (before.length - rest.length) else tokens)
  return x

/-- A part that is copied token for token. -/
def verbatim (part : Reader α) : Reader α := verbatimIf (fun _ => true) part

/-- A part, or nothing where it is refused. -/
def attempt (part : Reader α) : Reader (Option α) := fun r =>
  match part r with
  | .ok (x, r) => .ok (some x, r)
  | .error _ => .ok (none, r)

/-- What a part would be, without reading it. -/
def ahead (part : Reader α) : Reader α := do
  let r ← get
  let x ← part
  set r
  return x

/-- A name. -/
def name : Reader String := do
  match ← input with
  | .ident word :: _ =>
    if keywords.contains word then throw (.keyword word)
    else
      take 1
      return word
  | _ => expected ["identifier"]

/-- A name or any keyword. -/
def anyIdent : Reader String := do
  match ← input with
  | .ident word :: _ =>
    take 1
    return word
  | _ => expected ["ident"]

/-- A word or sign as messages show it. -/
def shown (text : String) : String := "`" ++ text ++ "`"

/-- Punctuation that must be there. That the tokens may be at an end is not said. -/
def punct (text : String) : Reader Unit := do
  if ← seesPunct text then take text.length else throw (.expected false [shown text])

def keyword (word : String) : Reader Unit := do
  if ← seesKeyword word then take 1 else expected [shown word]

def lifetime : Reader Unit := do
  if ← sees isLifetime then take 1 else expected ["lifetime"]

/-- A literal, perhaps with a sign. -/
def literal : Reader Unit := do
  if ← seesPunct "-" then take 2 else take 1

/-- Punctuation that may be missing. -/
def punct? (text : String) : Reader Bool := do
  let seen ← seesPunct text
  if seen then take text.length
  return seen

def keyword? (word : String) : Reader Bool := do
  let seen ← seesKeyword word
  if seen then take 1
  return seen

/-- A name or one of some keywords. -/
def nameOr (words : List String) : Reader Unit := do
  if ← seesAny (words.map isKeyword) then take 1 else discard name

def groupName : Delimiter → String
  | .paren => "parentheses"
  | .bracket => "square brackets"
  | .brace => "curly braces"

/-- A group whose content is read on its own, and then what follows the group, which
also copies it. What is left of the content is found after that. -/
def insideThen (delimiter : Delimiter) (content : Reader α) (rest : α → List Token → Reader β) :
    Reader β := do
  match ← get with
  | ⟨.group d tokens :: after, copy, unread⟩ =>
    if d = delimiter then
      let (x, inner) ← content.run ⟨tokens, [], unread⟩
      set (Reading.mk after copy inner.unread)
      let y ← rest x inner.copy.reverse
      unless inner.input.isEmpty do
        modify fun r => { r with unread := r.unread <|> some delimiter }
      return y
    else expected [groupName delimiter]
  | _ => expected [groupName delimiter]

/-- A group whose content is read on its own. -/
def inside (delimiter : Delimiter) (content : Reader α) : Reader α :=
  insideThen delimiter content fun x tokens => do
    write [.group delimiter tokens]
    return x

/-- A group of any kind, with whatever it holds. -/
def anyGroup : Reader Delimiter := do
  match ← input with
  | .group delimiter _ :: _ =>
    take 1
    return delimiter
  | _ => expected ["delimiter"]

/-- Steps until one yields nothing, but no more than one for each token and one after
them. -/
def iterateFor (step : α → Reader (Option α)) : List Token → α → Reader α
  | [], x => do return (← step x).getD x
  | _ :: tokens, x => do
    match ← step x with
    | none => return x
    | some y => iterateFor step tokens y

/-- Steps until one yields nothing. There are no more of them than tokens, since each
one reads some. -/
def iterate (step : α → Reader (Option α)) (x : α) : Reader α := do
  iterateFor step (← input) x

/-- What steps yield until one yields nothing. -/
def many (step : Reader (Option α)) : Reader (List α) := do
  let read ← iterate (fun xs => return (← step).map (· :: xs)) []
  return read.reverse

/-- Steps until one says that it was the last. -/
def repeated (step : Reader Bool) : Reader Unit :=
  iterate (fun () => return if ← step then some () else none) ()

/-- Items up to what ends them, each one but perhaps the last with a separator after
it. -/
def separated (ended : Reader Bool) (separator : String) (item : Reader α) : Reader (List α) :=
  many do
    if ← ended then return none
    let x ← item
    unless ← ended do
      punct separator
    return some x

/-- Items up to the end of the tokens, with commas between them and perhaps one
more after the last. -/
def commaSeparated (item : Reader α) : Reader (List α) := separated atEnd "," item

/-- Items with signs of addition between them. Before each one something may end
them. -/
def sum (ended : Reader Bool) (item : Reader Unit) : Reader Unit :=
  repeated do
    if ← ended then return false
    item
    punct? "+"

/-- Parts between angle brackets, with the commas after them. They are copied with
the lifetimes first. -/
def angled (part : Reader α) (isLifetime : α → Bool) (comma : Reader Unit) :
    Reader (List (α × Bool)) := do
  punct "<"
  let parts ← uncopied <| many do
    if ← seesPunct ">" then return none
    let (x, tokens) ← apart part
    if ← seesPunct ">" then return some (x, tokens, false)
    comma
    return some (x, tokens, true)
  let lifetimes := parts.filter (isLifetime ·.1)
  let others := parts.filter (!isLifetime ·.1)
  let tokens (parts : List (α × List Token × Bool)) : List Token :=
    parts.flatMap fun (_, tokens, comma) => tokens ++ if comma then [.punct ',' false] else []
  write (tokens lifetimes)
  if !others.isEmpty && lifetimes.getLast?.any (!·.2.2) then write [.punct ',' false]
  write (tokens others)
  punct ">"
  return parts.map fun (x, _, comma) => (x, comma)

/-- A reading of all the tokens. What is left over is refused, in a group before
what is left of the whole. -/
def complete (reader : Reader α) (tokens : List Token) : Except Problem α := do
  let (x, r) ← reader.run (.start tokens)
  match r.unread with
  | some delimiter => throw (.unexpected (some delimiter))
  | none => if r.input.isEmpty then return x else throw (.unexpected none)

end Reader

end RecordBinding
