import RecordBinding.Declaration.Item
import RecordBinding.Declaration.AtomReader

namespace RecordBinding

/-- What holds the fields of a structure. -/
inductive FieldsShape
  | named (fields : List DeclaredField)
  | unnamed

namespace Reader

/-- Who may see a thing, if that is said. What is in parentheses after the keyword
belongs to it only if it limits the visibility, for a tuple's type may stand there as
well. -/
def visibility : Reader Bool := do
  if ← keyword? "pub" then
    match ← input with
    | .group .paren (.ident "in" :: _) :: _ =>
      inside .paren do
        take 1
        discard Attribute.modulePath
    | .group .paren [.ident word] :: _ =>
      if word == "crate" || word == "self" || word == "super" then take 1
    | _ => pure ()
    return true
  else return false

mutual

/-- Fields with names, and how deep the structures in them may go. -/
def namedFields (nested : Nested) (depth : Nat) : Reader (List DeclaredField) :=
  match depth with
  | 0 => throw .nestedTooDeeply
  | depth + 1 => inside .brace <| commaSeparated (namedField nested depth)

/-- A field with a name. One without, under an underscore, may have a structure of
its own for a type. -/
def namedField (nested : Nested) (depth : Nat) : Reader DeclaredField :=
  match depth with
  | 0 => throw .nestedTooDeeply
  | depth + 1 => do
    let attributes ← Attribute.outer nested
    discard visibility
    let nameless ← seesKeyword "_"
    let ident ← if nameless then anyIdent else name
    punct ":"
    if nameless && ((← seesKeyword "struct") ||
        (← seesKeyword "union") && (← seesAfter 1 (isGroup .brace))) then
      let (_, tokens) ← copied <| verbatim do
        take 1
        discard <| namedFields nested depth
      return { attributes, ident, type := .written tokens }
    else return { attributes, ident, type := (← nested.type true).type }

end

/-- Fields with names. -/
def fields (nested : Nested) : Reader (List DeclaredField) := do
  namedFields nested (readingDepth (← input))

/-- Fields in parentheses, and their number. -/
def unnamedFields (nested : Nested) : Reader Nat := do
  let fields ← inside .paren <| commaSeparated do
    attributes nested
    discard visibility
    discard <| nested.type true
  return fields.length

/-- A variant. Its visibility says nothing, and is not copied. -/
def variant (nested : Nested) : Reader DeclaredVariant := do
  let attributes ← Attribute.outer nested
  discard <| uncopied visibility
  let ident ← name
  let shape ← if ← sees (isGroup .brace) then do
      discard <| fields nested
      pure VariantShape.named
    else if ← sees (isGroup .paren) then VariantShape.unnamed <$> unnamedFields nested
    else pure VariantShape.unit
  let discriminant ← if ← punct? "=" then some <$> nested.expression true else pure none
  return { attributes, ident, shape, discriminant := discriminant.map (·.value) }

/-- The part of a structure after its parameters. Conditions stand in front of
named fields and behind unnamed ones. -/
def structBody (nested : Nested) : Reader FieldsShape := do
  let conditioned ← conditions nested
  if !conditioned && (← sees (isGroup .paren)) then
    discard <| unnamedFields nested
    let conditioned ← conditions nested
    if ← punct? ";" then return .unnamed
    else expected (if conditioned then [shown ";"] else [shown "where", shown ";"])
  else if ← sees (isGroup .brace) then return .named (← fields nested)
  else if ← punct? ";" then return .unnamed
  else
    expected ((if conditioned then [] else [shown "where", "parentheses"]) ++
      ["curly braces", shown ";"])

/-- The part of an enumeration after its parameters. -/
def enumBody (nested : Nested) : Reader (List DeclaredVariant) := do
  discard <| conditions nested
  inside .brace <| commaSeparated (variant nested)

/-- The part of a union after its parameters. -/
def unionBody (nested : Nested) : Reader Unit := do
  discard <| conditions nested
  discard <| fields nested

end Reader

end RecordBinding
