import RecordBinding.Declaration.Reading
import RecordBinding.Declaration.TypeExpr

namespace RecordBinding

/-- What an expression says as a discriminant: a whole number under signs and
parentheses, or anything else. -/
inductive Discriminant
  | literal (value : Nat)
  | negated (operand : Discriminant)
  | grouped (operand : Discriminant)
  | other
  deriving DecidableEq

/-- A type, and the tokens of the bound that it is when it stands alone in
parentheses: only a path, or a single trait, is one. -/
structure TypeReading where
  type : TypeExpr
  bound : Option (List Token)

/-- The forms of expressions that bear on what may follow them. -/
inductive ExpressionForm
  | range | comparison | block | bracedInvocation | other
  deriving DecidableEq

/-- An expression. What is kept token for token at its beginning takes no
attributes from outside. -/
structure ExpressionReading where
  value : Discriminant
  form : ExpressionForm
  verbatim : Bool

namespace ExpressionReading

def ofForm (form : ExpressionForm) : ExpressionReading := ⟨.other, form, false⟩

def plain : ExpressionReading := ofForm .other

def block : ExpressionReading := ofForm .block

/-- What comes of an expression by something written after it. A range as a whole takes
attributes. -/
def extended (e : ExpressionReading) (form : ExpressionForm) : ExpressionReading :=
  ⟨.other, form, e.verbatim && form ≠ .range⟩

end ExpressionReading

/-- How tightly a sign binds what stands on both its sides, the loosest first. A jump
takes in all that follows. -/
inductive Precedence
  | jump | assign | range | or | and | binding | compare | bitOr | bitXor | bitAnd | shift | sum
  | product | cast
  deriving DecidableEq

namespace Precedence

def rank : Precedence → Nat
  | jump => 0
  | assign => 1
  | range => 2
  | or => 3
  | and => 4
  | binding => 5
  | compare => 6
  | bitOr => 7
  | bitXor => 8
  | bitAnd => 9
  | shift => 10
  | sum => 11
  | product => 12
  | cast => 13

def isLooserThan (p q : Precedence) : Bool := p.rank < q.rank

end Precedence

/-- The forms of patterns that are not allowed everywhere. -/
inductive PatternForm
  | rest | openRange | verbatim | other
  deriving DecidableEq

/-- The readers of what stands inside something else. Types, expressions, patterns and
statements hold each other, so each reader of one of them is written in terms of
these, which are the same readers one level deeper. -/
structure Nested where
  type (allowPlus : Bool) : Reader TypeReading
  bound : Reader Unit
  expression (allowStruct : Bool) : Reader ExpressionReading
  operand (allowStruct : Bool) : Reader ExpressionReading
  continued (allowStruct : Bool) (base : Precedence) (lhs : ExpressionReading) :
    Reader ExpressionReading
  body : Reader ExpressionReading
  pattern : Reader PatternForm
  statements : Reader Unit
  item : Reader Unit

/-- No level is left. -/
def Nested.none : Nested where
  type _ := throw .nestedTooDeeply
  bound := throw .nestedTooDeeply
  expression _ := throw .nestedTooDeeply
  operand _ := throw .nestedTooDeeply
  continued _ _ _ := throw .nestedTooDeeply
  body := throw .nestedTooDeeply
  pattern := throw .nestedTooDeeply
  statements := throw .nestedTooDeeply
  item := throw .nestedTooDeeply

end RecordBinding
