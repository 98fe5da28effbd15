import RecordBinding.Declaration.Literal
import RecordBinding.Text.Quoted

namespace RecordBinding.Lexer

/-- The punctuation characters. The single quote of a lifetime is read apart. -/
def isPunctuation (c : Char) : Bool := "~!@#$%^&*-=+|;:,<.>/?".toList.contains c

/-- A line's text up to its end, which belongs to what follows. -/
def line : List Char → List Char × List Char
  | [] => ([], [])
  | '\n' :: rest => ([], '\n' :: rest)
  | '\r' :: '\n' :: rest => ([], '\n' :: rest)
  | c :: rest => let (text, after) := line rest; (c :: text, after)

/-- A block comment's text, once so many comments are open inside it, and the rest
after its end. -/
def block? (depth : Nat) : List Char → Option (List Char × List Char)
  | '/' :: '*' :: rest =>
    (block? (depth + 1) rest).map fun (text, after) => ('/' :: '*' :: text, after)
  | '*' :: '/' :: rest =>
    match depth with
    | 0 => some ([], rest)
    | depth + 1 => (block? depth rest).map fun (text, after) => ('*' :: '/' :: text, after)
  | c :: rest => (block? depth rest).map fun (text, after) => (c :: text, after)
  | [] => none

/-- A documentation comment, with a mark for the inner kind, and the rest. -/
def documentation? : List Char → Option (Bool × List Char × List Char)
  | '/' :: '/' :: '!' :: rest => let (text, after) := line rest; some (true, text, after)
  | '/' :: '*' :: '!' :: rest => (block? 0 rest).map (true, ·)
  | '/' :: '/' :: '/' :: '/' :: _ => none
  | '/' :: '/' :: '/' :: rest => let (text, after) := line rest; some (false, text, after)
  | '/' :: '*' :: '*' :: '/' :: _ => none
  | '/' :: '*' :: '*' :: '*' :: _ => none
  | '/' :: '*' :: '*' :: rest => (block? 0 rest).map (false, ·)
  | _ => none

/-- The rest after one comment that documents nothing. -/
def comment? (cs : List Char) : Option (List Char) :=
  if (documentation? cs).isSome then none
  else
    match cs with
    | '/' :: '/' :: rest =>
      match rest with
      | '!' :: _ => none
      | '/' :: '/' :: _ => some (line rest).2
      | '/' :: _ => none
      | _ => some (line rest).2
    | '/' :: '*' :: '*' :: '/' :: rest => some rest
    | '/' :: '*' :: rest =>
      match rest with
      | '!' :: _ => none
      | '*' :: '*' :: _ => (block? 0 rest).map (·.2)
      | '*' :: _ => none
      | _ => (block? 0 rest).map (·.2)
    | _ => none

/-- Carriage returns stand before line feeds only. -/
def plainReturns : List Char → Bool
  | [] => true
  | '\r' :: '\n' :: rest => plainReturns rest
  | '\r' :: _ => false
  | _ :: rest => plainReturns rest

/-- Blanks, and the two marks of writing direction. -/
def isGap (c : Char) : Bool := isBlank c || c.toNat == 0x200E || c.toNat == 0x200F

/-- A documentation comment is an attribute in another spelling. -/
def documentationTokens (inner : Bool) (text : List Char) : List Token :=
  let value := String.ofList text
  [Token.punct '#' false] ++ (if inner then [Token.punct '!' false] else []) ++
    [Token.group .bracket
      [.ident "doc", .punct '=' false, .literal ⟨stringLiteral value, .string value⟩]]

/-- An identifier, which a mark in front may keep from being a keyword. Not all
keywords can be kept from it. -/
def identifier? : List Char → Option (String × List Char)
  | 'r' :: '#' :: rest =>
    match Literal.identifier? rest with
    | some (name, rest) =>
      let name := String.ofList name
      if ["_", "super", "self", "Self", "crate"].contains name then none
      else some ("r#" ++ name, rest)
    | none => none
  | cs => (Literal.identifier? cs).map fun (name, rest) => (String.ofList name, rest)

/-- What begins like a literal but is none is no identifier either. -/
def beginsLiteral (cs : List Char) : Bool :=
  ["r\x22", "r#\x22", "r##", "b\x22", "b\x27", "br\x22", "br#", "c\x22", "cr\x22", "cr#"].any
    fun start => start.toList.isPrefixOf cs

/-- Punctuation after which the next token follows at once. A comment is none. -/
def startsPunctuation : List Char → Bool
  | '/' :: '/' :: _ => false
  | '/' :: '*' :: _ => false
  | c :: _ => isPunctuation c || c.toNat == 39
  | [] => false

/-- A lifetime is not closed by a second quote, which would make it a character. Before
a literal the quote stands alone. -/
def lifetime? (cs : List Char) : Option (Token × List Char) :=
  match identifier? cs with
  | some (name, rest) =>
    if rest.head?.any fun c => c == singleQuote || c == '#' && !("r#".toList.isPrefixOf cs) then none
    else if beginsLiteral cs then some (.punct singleQuote true, cs)
    else some (.lifetime ("\x27" ++ name), rest)
  | none => none

/-- A mark that stands where something could not be read. It is one literal, for all that
it begins with a parenthesis. -/
def errorMark : List Char := "(/*ERROR*/)".toList

/-- A token that is no group. -/
def leaf? (cs : List Char) : Option (Token × List Char) :=
  match Literal.read? cs with
  | some (literal, rest) => some (.literal literal, rest)
  | none =>
    match cs with
    | [] => none
    | c :: rest =>
      if c.toNat = 39 then lifetime? rest
      else if startsPunctuation cs then some (.punct c (startsPunctuation rest), rest)
      else if beginsLiteral cs then none
      else if errorMark.isPrefixOf cs then
        some (.literal ⟨String.ofList errorMark, .other⟩, cs.drop errorMark.length)
      else (identifier? cs).map fun (name, rest) => (.ident name, rest)

def opened? (c : Char) : Option Delimiter :=
  [Delimiter.paren, .bracket, .brace].find? (·.opening == c)

def closed? (c : Char) : Option Delimiter :=
  [Delimiter.paren, .bracket, .brace].find? (·.closing == c)

/-- An open group: its delimiter, and the tokens before it, last one first. -/
abbrev Frame : Type := Delimiter × List Token

/-- The tokens of the text, given the open groups and the tokens read inside the
innermost one, last one first. Unbalanced or unreadable text has none. -/
def scan (frames : List Frame) (read : List Token) (cs : List Char) : Option (List Token) :=
  match cs with
  | [] => if frames.isEmpty then some read.reverse else none
  | c :: rest =>
    if isGap c then scan frames read rest
    else
      match comment? cs with
      | some after => if _shorter : after.length ≤ rest.length then scan frames read after else none
      | none =>
        match documentation? cs with
        | some (inner, text, after) =>
          if _shorter : after.length ≤ rest.length ∧ plainReturns text then
            scan frames ((documentationTokens inner text).reverse ++ read) after
          else none
        | none =>
          match if errorMark.isPrefixOf cs then none else opened? c, closed? c with
          | some delimiter, _ => scan ((delimiter, read) :: frames) [] rest
          | none, some delimiter =>
            match frames with
            | (opener, before) :: frames =>
              if opener = delimiter then scan frames (.group delimiter read.reverse :: before) rest
              else none
            | [] => none
          | none, none =>
            match leaf? cs with
            | some (token, after) =>
              if _shorter : after.length ≤ rest.length then scan frames (token :: read) after else none
            | none => none
termination_by cs.length

/-- The tokens of a source text. A byte order mark in front is not part of it. -/
def tokens? (source : String) : Option (List Token) :=
  match source.toList with
  | c :: rest => if c.toNat = 0xFEFF then scan [] [] rest else scan [] [] (c :: rest)
  | [] => some []

end RecordBinding.Lexer
