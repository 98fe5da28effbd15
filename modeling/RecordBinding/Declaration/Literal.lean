import RecordBinding.Declaration.Token
import RecordBinding.Text.IdentifierChars
import RecordBinding.Value.Guid

namespace RecordBinding.Literal

/-- An identifier at the head of the text, and the rest. -/
def identifier? : List Char → Option (List Char × List Char)
  | [] => none
  | c :: rest =>
    if isIdentifierStart c then
      some (c :: rest.takeWhile isIdentifierPart, rest.dropWhile isIdentifierPart)
    else none

/-- A literal may end in an identifier, whatever it says. -/
def dropSuffix (cs : List Char) : List Char :=
  match identifier? cs with
  | some (_, rest) => rest
  | none => cs

def hexDigit? (c : Char) : Option Nat := Guid.hexDigit? c

/-- The forms of quoted literals differ in the escapes they know. -/
inductive QuotedForm
  | text | bytes | terminated
  deriving DecidableEq

/-- A character by its code point between braces, of one to six digits, which may
be spaced by underscores. -/
def codePoint? (value digits : Nat) : List Char → Option (Char × List Char)
  | [] => none
  | c :: rest =>
    match hexDigit? c with
    | some digit => if digits = 6 then none else codePoint? (value * 16 + digit) (digits + 1) rest
    | none =>
      if digits = 0 then none
      else if c = '_' then codePoint? value digits rest
      else if c = Delimiter.brace.closing ∧ value.isValidChar then some (Char.ofNat value, rest)
      else none

/-- What follows a backslash. Bytes have no code points, text has no byte above
the ASCII ones, and terminated text must not hold its own terminator. -/
def escape? (form : QuotedForm) : List Char → Option (Char × List Char)
  | 'n' :: rest => some ('\n', rest)
  | 'r' :: rest => some ('\r', rest)
  | 't' :: rest => some ('\t', rest)
  | '\\' :: rest => some ('\\', rest)
  | '0' :: rest => if form = .terminated then none else some (Char.ofNat 0, rest)
  | 'x' :: high :: low :: rest => do
    let value := (← hexDigit? high) * 16 + (← hexDigit? low)
    match form with
    | .text => if value < 128 then some (Char.ofNat value, rest) else none
    | .bytes => some (Char.ofNat value, rest)
    | .terminated => if value = 0 then none else some (Char.ofNat value, rest)
  | 'u' :: c :: rest =>
    if c = Delimiter.brace.opening ∧ form ≠ .bytes then
      match codePoint? 0 0 rest with
      | some (value, rest) => if form = .terminated ∧ value.toNat = 0 then none else some (value, rest)
      | none => none
    else none
  | c :: rest => if c.toNat = 39 ∨ c.toNat = 34 then some (c, rest) else none
  | [] => none

/-- Line ends and blanks after a backslash at the end of a line are not part of
the literal. -/
def skipContinuation : List Char → Option (List Char)
  | [] => none
  | '\r' :: '\n' :: rest => skipContinuation rest
  | '\r' :: _ => none
  | c :: rest => if c = ' ' ∨ c = '\t' ∨ c = '\n' then skipContinuation rest else some (c :: rest)

/-- One step inside quotes: the characters it stands for, or the closing quote. -/
inductive QuotedStep
  | closed (rest : List Char)
  | more (value rest : List Char)

def quotedStep? (form : QuotedForm) : List Char → Option QuotedStep
  | [] => none
  | '\r' :: '\n' :: rest => some (.more ['\n'] rest)
  | '\r' :: _ => none
  | '\\' :: '\n' :: rest => (skipContinuation ('\n' :: rest)).map (.more [])
  | '\\' :: '\r' :: rest => (skipContinuation ('\r' :: rest)).map (.more [])
  | '\\' :: rest => (escape? form rest).map fun (c, rest) => .more [c] rest
  | c :: rest =>
    if c.toNat = 34 then some (.closed rest)
    else if form = .bytes ∧ 128 ≤ c.toNat ∨ form = .terminated ∧ c.toNat = 0 then none
    else some (.more [c] rest)

/-- The text inside quotes, and what follows them. -/
def quoted? (form : QuotedForm) (cs : List Char) : Option (List Char × List Char) :=
  match quotedStep? form cs with
  | none => none
  | some (.closed rest) => some ([], rest)
  | some (.more value rest) =>
    if _shorter : rest.length < cs.length then
      (quoted? form rest).map fun (later, rest) => (value ++ later, rest)
    else none
termination_by cs.length

/-- The text of a raw literal, up to a quote with as many marks after it as stand
before the opening one. Nothing in it is escaped. -/
def rawUntil? (form : QuotedForm) (marks : Nat) : List Char → Option (List Char × List Char)
  | [] => none
  | '\r' :: '\n' :: rest =>
    (rawUntil? form marks rest).map fun (later, rest) => ('\r' :: '\n' :: later, rest)
  | '\r' :: _ => none
  | c :: rest =>
    if c.toNat = 34 ∧ (rest.take marks) = List.replicate marks '#' then some ([], rest.drop marks)
    else if form = .bytes ∧ 128 ≤ c.toNat ∨ form = .terminated ∧ c.toNat = 0 then none
    else (rawUntil? form marks rest).map fun (later, rest) => (c :: later, rest)

/-- A raw literal from its marks on, of which there are at most 255. -/
def raw? (form : QuotedForm) (cs : List Char) : Option (List Char × List Char) :=
  let marks := (cs.takeWhile (· == '#')).length
  match cs.dropWhile (· == '#') with
  | c :: rest => if c.toNat = 34 ∧ marks ≤ 255 then rawUntil? form marks rest else none
  | [] => none

/-- A literal of the quoted forms: what it says, and the rest. -/
def quotedLiteral? : List Char → Option (LiteralKind × List Char)
  | 'r' :: rest => (raw? .text rest).map fun (value, rest) => (.string (String.ofList value), rest)
  | 'b' :: 'r' :: rest => (raw? .bytes rest).map fun (_, rest) => (.other, rest)
  | 'c' :: 'r' :: rest => (raw? .terminated rest).map fun (_, rest) => (.other, rest)
  | c :: rest =>
    if c.toNat = 34 then
      (quoted? .text rest).map fun (value, rest) => (.string (String.ofList value), rest)
    else
      match c, rest with
      | 'b', q :: rest =>
        if q.toNat = 34 then (quoted? .bytes rest).map fun (_, rest) => (.other, rest) else none
      | 'c', q :: rest =>
        if q.toNat = 34 then (quoted? .terminated rest).map fun (_, rest) => (.other, rest) else none
      | _, _ => none
  | [] => none

/-- One character or escape, and a closing quote. -/
def single? (form : QuotedForm) : List Char → Option (List Char)
  | '\\' :: rest => do
    let (_, rest) ← escape? form rest
    closingQuote? rest
  | c :: rest => if form = .bytes ∧ 128 ≤ c.toNat then none else closingQuote? rest
  | [] => none
where
  closingQuote? : List Char → Option (List Char)
    | c :: rest => if c.toNat = 39 then some rest else none
    | [] => none

def characterLiteral? : List Char → Option (List Char)
  | 'b' :: c :: rest => if c.toNat = 39 then single? .bytes rest else none
  | c :: rest => if c.toNat = 39 then single? .text rest else none
  | [] => none

/-- Digits and underscores. -/
def isDigitOrGap (c : Char) : Bool := c.isDigit || c == '_'

/-- An exponent after its letter: a sign at most, and a digit at least. -/
def exponent? (cs : List Char) : Option (List Char) :=
  let signed := cs.dropWhile (· == '_')
  let unsigned := match signed with
    | '+' :: rest => rest
    | '-' :: rest => rest
    | rest => rest
  if (unsigned.takeWhile isDigitOrGap).any Char.isDigit then some (unsigned.dropWhile isDigitOrGap)
  else none

/-- The digits of a fractional number: it has a point, which no identifier or
second point follows, or an exponent. -/
def fractional? (cs : List Char) : Option (List Char) :=
  match cs with
  | [] => none
  | first :: _ =>
    if !first.isDigit then none
    else
      match cs.dropWhile isDigitOrGap with
      | '.' :: rest =>
        if rest.head?.any fun c => c == '.' || isIdentifierStart c then none
        else
          match rest.dropWhile isDigitOrGap with
          | c :: after =>
            if c = 'e' ∨ c = 'E' then some ((exponent? after).getD (c :: after)) else some (c :: after)
          | [] => some []
      | c :: after => if c = 'e' ∨ c = 'E' then exponent? after else none
      | [] => none

/-- The base of a whole number and its digits. -/
def base (cs : List Char) : Nat × List Char :=
  match cs with
  | '0' :: 'x' :: rest => (16, rest)
  | '0' :: 'o' :: rest => (8, rest)
  | '0' :: 'b' :: rest => (2, rest)
  | _ => (10, cs)

/-- The digits of a whole number, and the rest. A digit that the base does not
have spoils it, unless it is a letter, which ends it. -/
def digits? (base : Nat) (any : Bool) : List Char → Option (List Char)
  | [] => if any then some [] else none
  | c :: rest =>
    if c = '_' then if !any && base == 10 then none else digits? base any rest
    else
      match hexDigit? c with
      | some digit =>
        if digit < base then digits? base true rest
        else if c.isDigit then none
        else if any then some (c :: rest) else none
      | none => if any then some (c :: rest) else none

/-- A number is followed by an identifier of its own or by none. -/
def endNumber? (rest : List Char) : Option (List Char) :=
  let rest := dropSuffix rest
  if rest.head?.any isIdentifierPart then none else some rest

def whole? (cs : List Char) : Option (List Char) :=
  let (base, rest) := base cs
  digits? base false rest

/-- The number that digits of a base write, up to the first character that is
none of them. -/
def wholeValue (base : Nat) (value : Nat) : List Char → Nat × List Char
  | [] => (value, [])
  | c :: rest =>
    if c = '_' then wholeValue base value rest
    else
      match hexDigit? c with
      | some digit => if digit < base then wholeValue base (value * base + digit) rest else (value, c :: rest)
      | none => (value, c :: rest)

/-- What a number says. A whole number with the suffix of a fractional type is
still a whole one. -/
def numberKind (cs : List Char) : LiteralKind :=
  let (base, rest) := base cs
  .integer (wholeValue base 0 rest).1

/-- The literal at the head of the text, and the rest. -/
def read? (cs : List Char) : Option (Literal × List Char) :=
  let consumed (kind : LiteralKind) (rest : List Char) : Literal × List Char :=
    (⟨String.ofList (cs.take (cs.length - rest.length)), kind⟩, rest)
  match quotedLiteral? cs with
  | some (kind, rest) => some (consumed kind (dropSuffix rest))
  | none =>
    match characterLiteral? cs with
    | some rest => some (consumed .other (dropSuffix rest))
    | none =>
      match (fractional? cs).bind endNumber? with
      | some rest => some (consumed .other rest)
      | none => ((whole? cs).bind endNumber?).map fun rest => consumed (numberKind cs) rest

/-- Whether the whole number that a text writes has a suffix. -/
def isSuffixed (cs : List Char) : Bool :=
  let (base, rest) := base cs
  !(wholeValue base 0 rest).2.isEmpty

end RecordBinding.Literal
