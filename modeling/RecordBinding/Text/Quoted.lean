import RecordBinding.Text.Visible

namespace RecordBinding

def singleQuote : Char := Char.ofNat 39
def doubleQuote : Char := Char.ofNat 34

/-- A character by its code point, in lowercase hexadecimal digits. -/
def codePointEscape (c : Char) : String :=
  "\\u\x7b" ++ String.ofList (Nat.toDigits 16 c.toNat) ++ "\x7d"

/-- A character as it is written between quotes of one kind. Marks that attach
to the character before them are written by code point, as is all that does not
show. -/
def escapeChar (quote c : Char) : String :=
  if c.toNat = 0 then "\\0"
  else if c = '\t' then "\\t"
  else if c = '\r' then "\\r"
  else if c = '\n' then "\\n"
  else if c = '\\' ∨ c = quote then String.ofList ['\\', c]
  else if isCombining c ∨ !isPrintable c then codePointEscape c
  else c.toString

def quoteChar (c : Char) : String :=
  singleQuote.toString ++ escapeChar singleQuote c ++ singleQuote.toString

def quoteString (s : String) : String :=
  doubleQuote.toString ++ String.join (s.toList.map (escapeChar doubleQuote)) ++
    doubleQuote.toString

/-- The characters of a string literal in generated code. A zero character
before an octal digit is written in full, so that the two are not read as one. -/
def literalChars : List Char → String
  | [] => ""
  | c :: rest =>
    (if c.toNat = 0 ∧ (rest.head?.any fun next => '0' ≤ next ∧ next ≤ '7') then "\\x00"
      else escapeChar doubleQuote c) ++ literalChars rest

def stringLiteral (s : String) : String :=
  doubleQuote.toString ++ literalChars s.toList ++ doubleQuote.toString

end RecordBinding
