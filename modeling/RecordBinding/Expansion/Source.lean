import RecordBinding.Declaration.Lexer
import RecordBinding.Declaration.ItemReader
import RecordBinding.Declaration.StructMapping
import RecordBinding.Declaration.EnumMapping
import RecordBinding.Expansion.StructCode
import RecordBinding.Expansion.EnumCode

namespace RecordBinding

/-- Why nothing is generated for a text: it has no tokens, its declaration is
refused, or the counter of its variants leaves its range. -/
inductive ExpansionFailure
  | noTokens
  | refused (problems : List Problem)
  | counterOverflow
  deriving DecidableEq

/-- The declaration that a text holds. -/
def Item.ofText? (source : String) : Except ExpansionFailure Item :=
  match Lexer.tokens? source with
  | none => .error .noTokens
  | some tokens => (Item.ofTokens? tokens).mapError fun p => .refused [p]

/-- What is generated for the declaration of a type with fields. -/
def structExpansion (source : String) : Except ExpansionFailure Code := do
  let item ← Item.ofText? source
  match StructMapping.ofItem item with
  | .ok mapping => return mapping.code
  | .error problems => throw (.refused problems)

/-- What is generated for the declaration of an enumeration. -/
def enumExpansion (source : String) : Except ExpansionFailure Code := do
  let item ← Item.ofText? source
  match EnumType.ofItem item with
  | .ok type => return type.code
  | .error (.problems problems) => throw (.refused problems)
  | .error .counterOverflow => throw .counterOverflow

end RecordBinding
