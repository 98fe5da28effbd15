import RecordBinding.Declaration.InnerItemReader
import RecordBinding.Declaration.StatementReader

namespace RecordBinding.Nested

/-- The readers that may go so many levels down. Each one is made of the readers that
may go one level less. -/
def ofDepth : Nat → Nested
  | 0 => Nested.none
  | depth + 1 =>
    { type := fun allowPlus => Reader.typeReading (ofDepth depth) allowPlus
      bound := fun r => (discard <| Reader.bound (ofDepth depth) false true : Reader Unit) r
      expression := fun allowStruct => Reader.expressionReading (ofDepth depth) allowStruct
      operand := fun allowStruct => Reader.operandReading (ofDepth depth) allowStruct
      continued := fun allowStruct base lhs =>
        Reader.continuedReading (ofDepth depth) allowStruct base lhs
      body := fun r => Reader.bodyReading (ofDepth depth) r
      pattern := fun r => Reader.patternReading (ofDepth depth) r
      statements := fun r => Reader.statementsReading (ofDepth depth) r
      item := fun r => Reader.innerItem (ofDepth depth) r }

/-- Readers that no part of some tokens is too deep for. -/
def forTokens (tokens : List Token) : Nested := ofDepth (readingDepth tokens)

/-- Readers that no part of any text is too deep for. Positions in a text have 32 bits, so it
cannot have more tokens. -/
def forAnyText : Nested := ofDepth (4 * 0x100000000 + 16)

end RecordBinding.Nested
