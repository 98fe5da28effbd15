import RecordBinding.Declaration.Grammar
import RecordBinding.Declaration.Item
import RecordBinding.Declaration.FieldOption
import RecordBinding.Field.EnumType
import RecordBinding.Number.Int128

namespace RecordBinding

/-- The number that an expression writes: a literal under any number of signs and
parentheses. -/
def Discriminant.value : Discriminant → Except Problem Int
  | literal n => if (n : Int) ≤ int128Max then .ok n else .error .numberTooLarge
  | negated operand => operand.value.map (- ·)
  | grouped operand => operand.value
  | other => .error .discriminantNotLiteral

/-- Why an enumeration is not mapped: it is at fault, or the counter that numbers its
variants has left its range. -/
inductive EnumRefusal
  | problems (found : List Problem)
  | counterOverflow
  deriving DecidableEq

/-- An enumeration of which some variants are judged. -/
structure EnumDraft (repr : IntKind) where
  variants : List EnumVariant
  other : Option String
  fits : ∀ v ∈ variants, repr.Fits v.discriminant
  distinct : (variants.map (·.discriminant)).Nodup

namespace EnumDraft

variable {repr : IntKind}

def empty : EnumDraft repr where
  variants := []
  other := none
  fits := by simp
  distinct := by simp

/-- One more variant, with the number that stands for it. -/
def declare (d : EnumDraft repr) (v : EnumVariant) (fits : repr.Fits v.discriminant)
    (new : ∀ w ∈ d.variants, w.discriminant ≠ v.discriminant) : EnumDraft repr where
  variants := d.variants ++ [v]
  other := d.other
  fits w member := by
    rcases List.mem_append.1 member with old | last
    · exact d.fits w old
    · rw [List.mem_singleton.1 last]
      exact fits
  distinct := by
    rw [List.map_append, List.nodup_append]
    refine ⟨d.distinct, by simp, ?_⟩
    intro n old m last same
    obtain ⟨w, member, rfl⟩ := List.mem_map.1 old
    simp only [List.map_cons, List.map_nil, List.mem_singleton] at last
    exact new w member (same.trans last)

/-- A variant marked for undeclared numbers holds one and needs none of its own. Every
other variant holds nothing, and its number fits and is not taken. -/
def judge (d : EnumDraft repr) (v : DeclaredVariant) (n : Int) :
    Except Problem (EnumDraft repr) :=
  match VariantOption.isOther [] v.attributes with
  | .error p => .error p
  | .ok true =>
    if d.other.isSome then .error .secondOther
    else if v.shape = .unnamed 1 then .ok { d with other := some v.ident }
    else .error (.otherWithoutRepr v.ident repr.spelling)
  | .ok false =>
    if v.shape ≠ .unit then .error .variantWithFields
    else if fits : repr.Fits n then
      match taken : d.variants.find? (·.discriminant == n) with
      | some first => .error (.discriminantTaken n first.ident v.ident)
      | none =>
        .ok (d.declare ⟨v.ident, n⟩ fits fun w member same =>
          List.find?_eq_none.1 taken w member (beq_iff_eq.2 same))
    else .error (.discriminantOutOfRange n repr.spelling)

/-- All variants in order. A variant without a number of its own has one more than the
variant before it. The number after a variant is computed even when none is to
follow. -/
def judgeAll (d : EnumDraft repr) (next : Int) :
    List DeclaredVariant → Option (EnumDraft repr × List Problem)
  | [] => some (d, [])
  | v :: rest =>
    match v.discriminant.elim (.ok next) Discriminant.value with
    | .error p => (judgeAll d next rest).map fun (d, problems) => (d, p :: problems)
    | .ok n =>
      if n = int128Max then none
      else
        match d.judge v n with
        | .ok d => judgeAll d (n + 1) rest
        | .error p => (judgeAll d (n + 1) rest).map fun (d, problems) => (d, p :: problems)

end EnumDraft

/-- The integer type that an attribute's arguments ask for. -/
def reprOfArguments (arguments : List Attribute) : Option IntKind :=
  arguments.findSome? fun argument =>
    match argument with
    | ⟨some name, .bare⟩ => IntKind.ofSpelling? name
    | _ => none

/-- The representation that attributes ask for. Nothing is read after the attribute
that settles it. -/
def reprOfAttributes : List Attribute → Except Problem IntKind
  | [] => .ok .isize
  | attr :: rest =>
    if attr.name == some "repr" then
      match attr.body with
      | .bare => .error (.argumentsMissing "repr")
      | .value => .error (.parenthesesMissing "repr")
      | .arguments tokens =>
        let arguments := Reader.commaSeparated (Attribute.content (.forTokens tokens))
        match arguments.complete tokens with
        | .error p => .error p
        | .ok arguments =>
          match reprOfArguments arguments with
          | some kind => .ok kind
          | none => reprOfAttributes rest
    else reprOfAttributes rest

namespace EnumType

/-- The enumerated type that a declaration describes. -/
def ofItem (item : Item) : Except EnumRefusal EnumType :=
  match item.body with
  | .variants declared =>
    if item.generic then .error (.problems [.enumGenerics])
    else
      match reprOfAttributes item.attributes with
      | .error p => .error (.problems [p])
      | .ok repr =>
        match EnumDraft.judgeAll (EnumDraft.empty : EnumDraft repr) 0 declared with
        | none => .error .counterOverflow
        | some (_, p :: problems) => .error (.problems (p :: problems))
        | some (d, []) =>
          if inhabited : d.variants ≠ [] ∨ d.other.isSome then
            .ok { d with ident := item.ident, repr, inhabited }
          else .error (.problems [.noVariant])
  | _ => .error (.problems [.notEnum])

end EnumType

end RecordBinding
