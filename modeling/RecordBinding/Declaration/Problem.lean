import RecordBinding.Declaration.Token

namespace RecordBinding

/-- Where options are written. -/
inductive OptionPlace
  | container | field | variant
  deriving DecidableEq

def OptionPlace.word : OptionPlace → String
  | container => "container"
  | field => "field"
  | variant => "variant"

/-- What a declaration is refused for: first the faults of its text, then those of
its attributes, then those of what it declares. -/
inductive Problem
  | expected (atEnd : Bool) (alternatives : List String)
  | keyword (word : String)
  | unexpected (unclosed : Option Delimiter)
  | semicolonMissing
  | constNotAllowed (conditional : Bool)
  | captureNotAllowed
  | relaxedBinder
  | chainedComparison
  | castFollowed (what : String)
  | rangeAttributes
  | unparenthesizedJump
  | openRangeInSlice
  | notDigits
  | unreadablePart
  | receiverMisplaced
  | receiverRepeated
  | negativeInherent
  | objectWithoutTrait
  | implWithoutTrait
  | nestedTooDeeply
  | attributeInside
  | whereParameters
  | numberTooLarge
  | argumentsMissing (attr : String)
  | parenthesesMissing (attr : String)
  | optionIsLiteral
  | optionIsNoName
  | unknownOption (place : OptionPlace)
  | duplicateOption (name : String)
  | unknownRenameRule
  | skipCombined
  | accessCombined
  | flattenCombined
  | constructorCombined
  | notStruct
  | fieldsUnnamed
  | structGenerics
  | nameCollision (ident bound firstIdent firstBound : String)
  | notEnum
  | enumGenerics
  | discriminantNotLiteral
  | secondOther
  | otherWithoutRepr (ident repr : String)
  | variantWithFields
  | discriminantOutOfRange (discriminant : Int) (repr : String)
  | discriminantTaken (discriminant : Int) (first second : String)
  | noVariant
  deriving DecidableEq

namespace Problem

/-- One thing, one of two, or one of a list. -/
def alternativesText : List String → String
  | [] => ""
  | [a] => a
  | [a, b] => a ++ " or " ++ b
  | many => "one of: " ++ ", ".intercalate many

def message : Problem → String
  | expected true [] => "unexpected end of input"
  | expected false [] => "unexpected token"
  | expected true alternatives =>
    "unexpected end of input, expected " ++ alternativesText alternatives
  | expected false alternatives => "expected " ++ alternativesText alternatives
  | keyword word => "expected identifier, found keyword `" ++ word ++ "`"
  | unexpected none => "unexpected token"
  | unexpected (some delimiter) =>
    "unexpected token, expected `" ++ delimiter.closing.toString ++ "`"
  | semicolonMissing => "unexpected token, expected `;`"
  | constNotAllowed true => "`[const]` is not allowed here"
  | constNotAllowed false => "`const` is not allowed here"
  | captureNotAllowed => "`use<...>` precise capturing syntax is not allowed here"
  | relaxedBinder => "`for<...>` binder not allowed with `?` trait polarity modifier"
  | chainedComparison => "comparison operators cannot be chained"
  | castFollowed what => "casts cannot be followed by " ++ what
  | rangeAttributes =>
    "attributes are not allowed on range expressions starting with `..`"
  | unparenthesizedJump => "parentheses required"
  | openRangeInSlice =>
    "range pattern is not allowed unparenthesized inside slice pattern"
  | notDigits => "invalid digit found in string"
  | unreadablePart => "cannot parse string into token stream"
  | receiverMisplaced => "unexpected method receiver"
  | receiverRepeated => "unexpected second method receiver"
  | negativeInherent => "inherent impls cannot be negative"
  | objectWithoutTrait => "at least one trait is required for an object type"
  | implWithoutTrait => "at least one trait must be specified"
  | nestedTooDeeply => "nested too deeply"
  | attributeInside => "unexpected attribute inside of attribute"
  | whereParameters =>
    "generic parameters on `where` clauses are reserved for future use"
  | numberTooLarge => "number too large to fit in target type"
  | argumentsMissing attr =>
    "expected attribute arguments in parentheses: #[" ++ attr ++ "(...)]"
  | parenthesesMissing attr => "expected parentheses: #[" ++ attr ++ "(...)]"
  | optionIsLiteral => "unexpected literal in nested attribute, expected ident"
  | optionIsNoName => "unexpected token in nested attribute, expected ident"
  | unknownOption place => "unknown `row` " ++ place.word ++ " option"
  | duplicateOption name => "duplicate `" ++ name ++ "` option"
  | unknownRenameRule =>
    "unknown rename rule; expected one of \"lowercase\", \"UPPERCASE\", \"PascalCase\", " ++
      "\"camelCase\", \"snake_case\", \"SCREAMING_SNAKE_CASE\", \"kebab-case\""
  | skipCombined => "`skip` cannot be combined with other options"
  | accessCombined => "`read_only` and `write_only` cannot be combined"
  | flattenCombined => "`flatten` cannot be combined with other options"
  | constructorCombined => "`constructor` and `no_constructor` cannot be combined"
  | notStruct => "`RowMapper` can only be derived for structs"
  | fieldsUnnamed => "`RowMapper` requires a struct with named fields"
  | structGenerics => "`RowMapper` generics are not supported"
  | nameCollision ident bound firstIdent firstBound =>
    s!"field `{ident}` is bound as `{bound}`, which collides with field `{firstIdent}` bound as `{firstBound}`"
  | notEnum => "`RowEnum` can only be derived for enums"
  | enumGenerics => "`RowEnum` generics are not supported"
  | discriminantNotLiteral => "`RowEnum` discriminants must be integer literals"
  | secondOther => "only one variant can be marked `#[row(other)]`"
  | otherWithoutRepr ident repr =>
    s!"the `#[row(other)]` variant must hold the representation, like `{ident}({repr})`"
  | variantWithFields =>
    "`RowEnum` variants must be unit variants; mark a variant holding undeclared values with `#[row(other)]`"
  | discriminantOutOfRange discriminant repr =>
    s!"discriminant `{discriminant}` does not fit in `{repr}`"
  | discriminantTaken discriminant first second =>
    s!"discriminant `{discriminant}` is assigned to both `{first}` and `{second}`"
  | noVariant => "`RowEnum` requires at least one variant"

end Problem

end RecordBinding
