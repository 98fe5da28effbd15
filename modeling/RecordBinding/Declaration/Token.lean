namespace RecordBinding

inductive Delimiter
  | paren | bracket | brace
  deriving DecidableEq

namespace Delimiter

def opening : Delimiter → Char
  | paren => '('
  | bracket => '['
  | brace => Char.ofNat 0x7b

def closing : Delimiter → Char
  | paren => ')'
  | bracket => ']'
  | brace => Char.ofNat 0x7d

end Delimiter

/-- What a literal says, as far as declarations use it. -/
inductive LiteralKind
  | string (value : String)
  | integer (value : Nat)
  | other
  deriving DecidableEq

/-- A literal as it is written, and what it says. -/
structure Literal where
  text : String
  kind : LiteralKind
  deriving DecidableEq

/-- A token of source text. Delimiters are balanced, so what stands between a pair
of them is one token. A punctuation character is joint when the next one follows
at once. -/
inductive Token
  | ident (text : String)
  | lifetime (text : String)
  | literal (lit : Literal)
  | punct (c : Char) (joint : Bool)
  | group (delimiter : Delimiter) (content : List Token)

namespace Token

mutual

/-- The token as separate words, a group's delimiters among them. -/
def words : Token → List String
  | ident text => [text]
  | lifetime text => [text]
  | .literal lit => [lit.text]
  | punct c _ => [c.toString]
  | group delimiter content =>
    delimiter.opening.toString :: (wordsOf content ++ [delimiter.closing.toString])

def wordsOf : List Token → List String
  | [] => []
  | t :: rest => words t ++ wordsOf rest

/-- Number of tokens, those inside groups counted too. -/
def size : Token → Nat
  | group _ content => totalSize content + 2
  | _ => 1

def totalSize : List Token → Nat
  | [] => 0
  | t :: rest => size t + totalSize rest

end

end Token

end RecordBinding
