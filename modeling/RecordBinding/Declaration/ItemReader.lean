import RecordBinding.Declaration.FieldReader
import RecordBinding.Declaration.Grammar

namespace RecordBinding

namespace Reader

/-- The declaration of a type. -/
def item (nested : Nested) : Reader Item := do
  let attributes ← Attribute.outer nested
  discard visibility
  let body : Reader ItemBody ← if ← seesKeyword "struct" then
      pure do
        match ← structBody nested with
        | .named fields => return .fields fields
        | .unnamed => return .unnamedFields
    else if ← seesKeyword "enum" then pure (.variants <$> enumBody nested)
    else if ← seesKeyword "union" then
      pure do
        unionBody nested
        return .union
    else expected ["`struct`", "`enum`", "`union`"]
  take 1
  let ident ← name
  let (generic, _) ← parameters nested
  return { attributes, ident, generic, body := ← body }

end Reader

/-- The declaration that the tokens are, to the last of them. -/
def Item.ofTokens? (tokens : List Token) : Except Problem Item :=
  Reader.complete (Reader.item (.forTokens tokens)) tokens

end RecordBinding
