import RecordBinding.Declaration.Token

namespace RecordBinding

/-- A path up to the name of its last segment, whose arguments stand apart. -/
structure PathHead where
  before : List Token
  parent : Option String
  last : String

/-- A written type, as far as its shape decides how a field is bound: redundant
grouping, and the one type argument that the last segment of a path may have.
All other forms are kept as written. -/
inductive TypeExpr
  | group (elem : TypeExpr)
  | paren (elem : TypeExpr)
  | path (head : PathHead) (arguments : List Token)
  | applied (head : PathHead) (turbofish : Bool) (argument : TypeExpr) (comma : Bool)
  | qualified (last : String) (tokens : List Token)
  | written (tokens : List Token)

namespace TypeExpr

def doubleColon : List Token := [.punct ':' true, .punct ':' false]

/-- The type token for token. An invisible group has none of its own. -/
def tokens : TypeExpr → List Token
  | group elem => elem.tokens
  | paren elem => [.group .paren elem.tokens]
  | path head arguments => head.before ++ .ident head.last :: arguments
  | applied head turbofish argument comma =>
    head.before ++ .ident head.last :: ((if turbofish then doubleColon else []) ++
      .punct '<' false :: (argument.tokens ++ (if comma then [.punct ',' false] else []) ++
        [.punct '>' false]))
  | qualified _ tokens => tokens
  | written tokens => tokens

/-- The words of the type, one for each token. -/
def words (t : TypeExpr) : List String := Token.wordsOf t.tokens

/-- The name that a path type ends in. Grouping hides it. -/
def lastName? : TypeExpr → Option String
  | path head _ => some head.last
  | applied head _ _ _ => some head.last
  | qualified last _ => some last
  | _ => none

/-- A path of one segment with nothing in front. -/
def isSegment : TypeExpr → Bool
  | path head _ => head.before.isEmpty
  | applied head _ _ _ => head.before.isEmpty
  | _ => false

end TypeExpr

end RecordBinding
