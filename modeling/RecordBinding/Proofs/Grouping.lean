import RecordBinding.Expansion.Coercion
import RecordBinding.Expansion.SchemaCode

namespace RecordBinding

/-- Tokens with more parentheses in them, around any of the parts that they have at any
depth. -/
inductive Token.Parenthesized : List Token → List Token → Prop
  | nil : Parenthesized [] []
  | cons (t : Token) {rest rest'} (later : Parenthesized rest rest') :
    Parenthesized (t :: rest) (t :: rest')
  | group (delimiter : Delimiter) {content content' rest rest'}
    (inside : Parenthesized content content') (later : Parenthesized rest rest') :
    Parenthesized (.group delimiter content :: rest) (.group delimiter content' :: rest')
  | paren {part part' rest rest'} (inside : Parenthesized part part')
    (later : Parenthesized rest rest') :
    Parenthesized (part ++ rest) (.group .paren part' :: rest')

namespace TypeExpr

/-- A type with more groups and parentheses in it, around the type itself or around types that
it is made of, at any depth. -/
inductive Regrouped : TypeExpr → TypeExpr → Prop
  | inGroup {t t'} (inside : Regrouped t t') : Regrouped t (group t')
  | inParen {t t'} (inside : Regrouped t t') : Regrouped t (paren t')
  | group {t t'} (inside : Regrouped t t') : Regrouped (group t) (group t')
  | paren {t t'} (inside : Regrouped t t') : Regrouped (paren t) (paren t')
  | path {before before' arguments arguments'} (parent : Option String) (last : String)
    (head : Token.Parenthesized before before')
    (tail : Token.Parenthesized arguments arguments') :
    Regrouped (path ⟨before, parent, last⟩ arguments) (path ⟨before', parent, last⟩ arguments')
  | applied {before before' argument argument'} (parent : Option String) (last : String)
    (turbofish comma : Bool) (head : Token.Parenthesized before before')
    (inside : Regrouped argument argument') :
    Regrouped (applied ⟨before, parent, last⟩ turbofish argument comma)
      (applied ⟨before', parent, last⟩ turbofish argument' comma)
  | qualified (last : String) {tokens tokens'} (inside : Token.Parenthesized tokens tokens') :
    Regrouped (qualified last tokens) (qualified last tokens')
  | written {tokens tokens'} (inside : Token.Parenthesized tokens tokens') :
    Regrouped (written tokens) (written tokens')

/-- A type without the grouping around it. -/
def ungrouped : TypeExpr → TypeExpr
  | group elem => elem.ungrouped
  | paren elem => elem.ungrouped
  | t => t

/-- The type inside of all options and vectors, without the grouping around it. -/
def innermost : TypeExpr → TypeExpr
  | group elem => elem.innermost
  | paren elem => elem.innermost
  | applied head turbofish argument comma =>
    if head.last == "Option" || head.last == "Vec" then argument.innermost
    else applied head turbofish argument comma
  | t => t

/-- One of the offsets that moments are known with. -/
def NamesOffset (t : TypeExpr) : Prop :=
  t.lastName? = some "FixedOffset" ∨ t.lastName? = some "Utc"

/-- The innermost type is a moment, and the offset that it is known with is grouped. -/
def HidesOffset (t : TypeExpr) : Prop :=
  ∃ head turbofish argument comma, t.innermost = applied head turbofish argument comma ∧
    head.last = "DateTime" ∧ ¬argument.NamesOffset ∧ argument.ungrouped.NamesOffset

end TypeExpr

/-- Two types are taken for the same thing at every level but the innermost, where what they
are taken for is so related. One is written as the other, but with more grouping. -/
inductive ClassifiedType.Regrouped (related : LeafClass → LeafClass → Prop) :
    ClassifiedType → ClassifiedType → Prop
  | leaf {type type' kind kind'} (types : type.Regrouped type') (kinds : related kind kind') :
    Regrouped related (leaf type kind) (leaf type' kind')
  | array {type type' item item'} (types : type.Regrouped type')
    (items : Regrouped related item item') : Regrouped related (array type item) (array type' item')
  | nullable {type type' inner inner'} (types : type.Regrouped type')
    (inners : Regrouped related inner inner') :
    Regrouped related (nullable type inner) (nullable type' inner')

/-- What is recognized as a moment with an offset is not recognized any more. -/
def LeafClass.LosesOffset (kind kind' : LeafClass) : Prop :=
  (∃ exact, kind = .dateTimeOffset exact) ∧ kind' = .other

/-- Two coercions do the same, for types that are written with more or less grouping. -/
inductive Coercion.Regrouped : Coercion → Coercion → Prop
  | text : Regrouped text text
  | nullable {inner inner'} (inners : Regrouped inner inner') :
    Regrouped (nullable inner) (nullable inner')
  | eachItem {item item'} (items : Regrouped item item') :
    Regrouped (eachItem item) (eachItem item')
  | reread {item item'} (items : TypeExpr.Regrouped item item') :
    Regrouped (reread item) (reread item')
  | representation {type type'} (types : TypeExpr.Regrouped type type') :
    Regrouped (representation type) (representation type')
  | foreign {type type'} (types : TypeExpr.Regrouped type type') :
    Regrouped (foreign type) (foreign type')
  | stored (variant : String) {type type'} (types : TypeExpr.Regrouped type type') :
    Regrouped (stored variant type) (stored variant type')
  | general {type type'} (types : TypeExpr.Regrouped type type') :
    Regrouped (general type) (general type')

namespace TypeExpr

variable {t t' : TypeExpr}

theorem Regrouped.ungrouped (regrouped : t.Regrouped t') :
    t.ungrouped.lastName? = t'.ungrouped.lastName? := by
  induction regrouped with
  | inGroup _ ih => exact ih
  | inParen _ ih => exact ih
  | group _ ih => exact ih
  | paren _ ih => exact ih
  | path => rfl
  | applied => rfl
  | qualified => rfl
  | written => rfl

/-- More grouping takes the name from a type, or leaves it. -/
theorem Regrouped.lastName? (regrouped : t.Regrouped t') :
    t'.lastName? = t.lastName? ∨ t'.lastName? = none := by
  cases regrouped with
  | inGroup _ => exact Or.inr rfl
  | inParen _ => exact Or.inr rfl
  | group _ => exact Or.inr rfl
  | paren _ => exact Or.inr rfl
  | path => exact Or.inl rfl
  | applied => exact Or.inl rfl
  | qualified => exact Or.inl rfl
  | written => exact Or.inl rfl

/-- A type that has a name is not grouped. -/
theorem ungrouped_of_named {name : String} (named : t.lastName? = some name) : t.ungrouped = t := by
  cases t with
  | group elem => cases named
  | paren elem => cases named
  | _ => rfl

theorem NamesOffset.ungrouped (names : t.NamesOffset) : t.ungrouped.NamesOffset := by
  rcases names with named | named
  · exact Or.inl ((congrArg TypeExpr.lastName? (ungrouped_of_named named)).trans named)
  · exact Or.inr ((congrArg TypeExpr.lastName? (ungrouped_of_named named)).trans named)

end TypeExpr

namespace LeafClass

/-- Only a moment is told by its argument. -/
theorem ofPath_of_ne {parent : Option String} {name : String} (other : name ≠ "DateTime")
    (a b : Option TypeExpr) : ofPath parent name a = ofPath parent name b := by
  unfold ofPath
  split
  · rfl
  · split <;> first | rfl | contradiction

/-- The class of a moment, by the name of its offset. -/
def ofOffset : Option String → LeafClass
  | some "FixedOffset" => dateTimeOffset true
  | some "Utc" => dateTimeOffset false
  | _ => other

theorem ofPath_moment (parent : Option String) (argument : TypeExpr) :
    ofPath parent "DateTime" (some argument) = ofOffset argument.lastName? := rfl

theorem ofOffset_of_named {t : TypeExpr} (names : t.NamesOffset) :
    ∃ exact, ofOffset t.lastName? = .dateTimeOffset exact := by
  rcases names with named | named
  · exact ⟨true, congrArg ofOffset named⟩
  · exact ⟨false, congrArg ofOffset named⟩

theorem ofOffset_of_unnamed {t : TypeExpr} (unnamed : ¬t.NamesOffset) :
    ofOffset t.lastName? = .other := by
  unfold ofOffset
  split
  · rename_i named
    exact absurd (Or.inl named) unnamed
  · rename_i named
    exact absurd (Or.inr named) unnamed
  · rfl

end LeafClass

namespace TypeExpr

variable {t t' : TypeExpr} {isEnum : Bool}

theorem Regrouped.namesOffset (regrouped : t.Regrouped t') (names : t'.NamesOffset) :
    t.lastName? = t'.lastName? := by
  rcases regrouped.lastName? with same | none
  · exact same.symm
  · rcases names with named | named <;> cases none.symm.trans named

/-- A moment is known with the offset that it was known with, unless the offset is grouped. -/
theorem Regrouped.ofOffset (regrouped : t.Regrouped t') :
    (¬(t.NamesOffset ∧ ¬t'.NamesOffset) ∧
      LeafClass.ofOffset t.lastName? = .ofOffset t'.lastName?) ∨
    (t.NamesOffset ∧ ¬t'.NamesOffset) ∧
      (LeafClass.ofOffset t.lastName?).LosesOffset (.ofOffset t'.lastName?) := by
  by_cases names' : t'.NamesOffset
  · exact Or.inl ⟨fun lost => lost.2 names', congrArg _ (regrouped.namesOffset names')⟩
  · have unknown := LeafClass.ofOffset_of_unnamed names'
    by_cases names : t.NamesOffset
    · exact Or.inr ⟨⟨names, names'⟩, LeafClass.ofOffset_of_named names, unknown⟩
    · have unknown' := LeafClass.ofOffset_of_unnamed names
      exact Or.inl ⟨fun lost => names lost.1, unknown'.trans unknown.symm⟩

theorem not_hidesOffset_of_ne {inner : TypeExpr} (same : t.innermost = inner)
    (other : ∀ head turbofish argument comma, inner ≠ applied head turbofish argument comma) :
    ¬t.HidesOffset := by
  rintro ⟨head, turbofish, argument, comma, found, _⟩
  exact other head turbofish argument comma (same.symm.trans found)

theorem hidesOffset_of_wrapper {head : PathHead}
    (wrapper : head.last = "Option" ∨ head.last = "Vec") (turbofish comma : Bool) :
    (applied head turbofish t comma).HidesOffset ↔ t.HidesOffset := by
  have inner : (applied head turbofish t comma).innermost = t.innermost := by
    rw [innermost]
    rcases wrapper with last | last <;> rw [last] <;> rfl
  rw [HidesOffset, inner, HidesOffset]

theorem hidesOffset_of_plain {head : PathHead} (option : head.last ≠ "Option")
    (vector : head.last ≠ "Vec") (turbofish comma : Bool) :
    (applied head turbofish t comma).HidesOffset ↔
      head.last = "DateTime" ∧ ¬t.NamesOffset ∧ t.ungrouped.NamesOffset := by
  have itself : (applied head turbofish t comma).innermost = applied head turbofish t comma := by
    simp [innermost, option, vector]
  rw [HidesOffset, itself]
  constructor
  · rintro ⟨_, _, _, _, same, hides⟩
    cases same
    exact hides
  · exact fun hides => ⟨_, _, _, _, rfl, hides⟩

theorem classify_of_plain {head : PathHead} (option : head.last ≠ "Option")
    (vector : head.last ≠ "Vec") (isEnum turbofish comma : Bool) :
    ClassifiedType.classify isEnum (applied head turbofish t comma) =
      .leaf (applied head turbofish t comma)
        (if isEnum then .enum else .ofPath head.parent head.last (some t)) := by
  cases isEnum <;> simp [ClassifiedType.classify, option, vector]

theorem Regrouped.ungrouped_namesOffset (regrouped : t.Regrouped t') :
    t.ungrouped.NamesOffset ↔ t'.ungrouped.NamesOffset := by
  rw [NamesOffset, NamesOffset, regrouped.ungrouped]

/-- Grouping hides nothing but the offset of a moment. -/
theorem Regrouped.classify (regrouped : t.Regrouped t') (isEnum : Bool) :
    (isEnum = true ∨ (t'.HidesOffset → t.HidesOffset)) ∧
      (ClassifiedType.classify isEnum t).Regrouped (· = ·) (.classify isEnum t') ∨
    ¬(isEnum = true ∨ (t'.HidesOffset → t.HidesOffset)) ∧
      (ClassifiedType.classify isEnum t).Regrouped LeafClass.LosesOffset (.classify isEnum t') := by
  induction regrouped with
  | inGroup _ ih => exact ih
  | inParen _ ih => exact ih
  | group _ ih => exact ih
  | paren _ ih => exact ih
  | path parent last head tail =>
    refine Or.inl ⟨Or.inr fun hides => ?_, .leaf (.path parent last head tail) rfl⟩
    exact absurd hides (not_hidesOffset_of_ne rfl nofun)
  | qualified last inside =>
    refine Or.inl ⟨Or.inr fun hides => ?_, .leaf (.qualified last inside) rfl⟩
    exact absurd hides (not_hidesOffset_of_ne rfl nofun)
  | written inside =>
    refine Or.inl ⟨Or.inr fun hides => ?_, .leaf (.written inside) rfl⟩
    exact absurd hides (not_hidesOffset_of_ne rfl nofun)
  | @applied before before' argument argument' parent last turbofish comma head inside ih =>
    have types := Regrouped.applied parent last turbofish comma head inside
    by_cases wrapper : last = "Option" ∨ last = "Vec"
    · rw [hidesOffset_of_wrapper wrapper, hidesOffset_of_wrapper wrapper]
      rcases wrapper with rfl | rfl
      · exact ih.imp (And.imp_right (.nullable types)) (And.imp_right (.nullable types))
      · exact ih.imp (And.imp_right (.array types)) (And.imp_right (.array types))
    · obtain ⟨option, vector⟩ := not_or.1 wrapper
      rw [hidesOffset_of_plain option vector, hidesOffset_of_plain option vector,
        classify_of_plain option vector, classify_of_plain option vector]
      cases isEnum with
      | true => exact Or.inl ⟨Or.inl rfl, .leaf types rfl⟩
      | false =>
        by_cases moment : last = "DateTime"
        · subst moment
          simp only [Bool.false_eq_true, if_false, false_or, true_and, LeafClass.ofPath_moment]
          rcases inside.ofOffset with ⟨kept, same⟩ | ⟨⟨names, unnamed⟩, loses⟩
          · refine Or.inl ⟨fun ⟨unnamed, named⟩ => ?_, .leaf types same⟩
            exact ⟨fun names => kept ⟨names, unnamed⟩, inside.ungrouped_namesOffset.2 named⟩
          · refine Or.inr ⟨fun shown => ?_, .leaf types loses⟩
            have named := inside.ungrouped_namesOffset.1 names.ungrouped
            exact (shown ⟨unnamed, named⟩).1 names
        · refine Or.inl ⟨Or.inr fun hides => absurd hides.1 moment, .leaf types ?_⟩
          exact LeafClass.ofPath_of_ne moment _ _

end TypeExpr

namespace ClassifiedType

variable {c c' : ClassifiedType} {related : LeafClass → LeafClass → Prop}

/-- What the innermost type is taken for. -/
def kind : ClassifiedType → LeafClass
  | leaf _ kind => kind
  | array _ item => item.kind
  | nullable _ inner => inner.kind

theorem containsOther_eq (c : ClassifiedType) : c.containsOther = decide (c.kind = .other) := by
  induction c with
  | leaf type kind => rfl
  | array type item ih => exact ih
  | nullable type inner ih => exact ih

theorem Regrouped.types (regrouped : c.Regrouped related c') : c.type.Regrouped c'.type := by
  cases regrouped with
  | leaf types _ => exact types
  | array types _ => exact types
  | nullable types _ => exact types

theorem Regrouped.kinds (regrouped : c.Regrouped related c') : related c.kind c'.kind := by
  induction regrouped with
  | leaf _ kinds => exact kinds
  | array _ _ ih => exact ih
  | nullable _ _ ih => exact ih

theorem ofLeaf_regrouped {type type' : TypeExpr} (types : type.Regrouped type') (kind : LeafClass) :
    (Coercion.ofLeaf type kind).Regrouped (.ofLeaf type' kind) := by
  unfold Coercion.ofLeaf
  split
  · exact .text
  · exact .representation types
  · exact .foreign types
  · split
    · exact .stored _ types
    · exact .general types

theorem Regrouped.coercion (regrouped : c.Regrouped (· = ·) c') :
    (Coercion.ofType c).Regrouped (.ofType c') := by
  induction regrouped with
  | leaf types kinds =>
    cases kinds
    exact ofLeaf_regrouped types _
  | array _ items ih =>
    rw [Coercion.ofType, Coercion.ofType, containsOther_eq, containsOther_eq, items.kinds]
    split
    · exact .eachItem ih
    · exact .reread items.types
  | nullable _ _ ih => exact .nullable ih

/-- Only enumerated types and those that are not recognized are shown as they are written. -/
theorem categoryCode_leaf {kind : LeafClass} (numbered : kind ≠ .enum) (recognized : kind ≠ .other)
    (type type' : TypeExpr) : kind.categoryCode type = kind.categoryCode type' := by
  cases kind with
  | enum => exact absurd rfl numbered
  | other => exact absurd rfl recognized
  | _ => rfl

theorem Regrouped.categoryCode (regrouped : c.Regrouped (· = ·) c') (numbered : c.kind ≠ .enum)
    (recognized : c.kind ≠ .other) : c.categoryCode = c'.categoryCode := by
  induction regrouped with
  | leaf _ kinds =>
    cases kinds
    exact categoryCode_leaf numbered recognized _ _
  | array _ _ ih =>
    rw [ClassifiedType.categoryCode, ClassifiedType.categoryCode, ih numbered recognized]
  | nullable _ _ ih =>
    rw [ClassifiedType.categoryCode, ClassifiedType.categoryCode, ih numbered recognized]

/-- A type is taken for the same at every level, however much grouping is put into it, unless the
offset of a moment is grouped, which is not looked through: then a moment that was recognized is
not recognized any more. Marked as enumerated, no type is looked into for an offset. Where types
are taken for the same, the same is generated for them, but for the types that are repeated
there as they are written, and the same category unless that shows the type. -/
theorem grouping_hides_offsets_only {t t' : TypeExpr} (regrouped : t.Regrouped t') (isEnum : Bool) :
    ((classify isEnum t).Regrouped (· = ·) (classify isEnum t') ↔
      isEnum = true ∨ (t'.HidesOffset → t.HidesOffset)) ∧
    (¬(classify isEnum t).Regrouped (· = ·) (classify isEnum t') →
      (classify isEnum t).Regrouped LeafClass.LosesOffset (classify isEnum t')) ∧
    ((classify isEnum t).Regrouped (· = ·) (classify isEnum t') →
      (Coercion.ofType (classify isEnum t)).Regrouped (.ofType (classify isEnum t')) ∧
      ((classify isEnum t).kind ≠ .enum → (classify isEnum t).kind ≠ .other →
        (classify isEnum t).categoryCode = (classify isEnum t').categoryCode)) := by
  refine ⟨?_, ?_, fun same => ⟨same.coercion, same.categoryCode⟩⟩
  · rcases regrouped.classify isEnum with ⟨shown, same⟩ | ⟨hidden, loses⟩
    · exact iff_of_true same shown
    · refine iff_of_false (fun same => ?_) hidden
      obtain ⟨⟨exact, known⟩, lost⟩ := loses.kinds
      cases (known.symm.trans same.kinds).trans lost
  · intro different
    rcases regrouped.classify isEnum with ⟨_, same⟩ | ⟨_, loses⟩
    · exact absurd same different
    · exact loses

/-- A type of this name with one argument. -/
def applied (name : String) (argument : TypeExpr) : TypeExpr :=
  .applied ⟨[], none, name⟩ false argument false

theorem applied_regrouped (name : String) {t t' : TypeExpr} (inside : t.Regrouped t') :
    (applied name t).Regrouped (applied name t') :=
  .applied none name false false .nil inside

/-- A moment in universal time. -/
def utcMoment : TypeExpr := applied "DateTime" (.path ⟨[], none, "Utc"⟩ [])

theorem utcMoment_regrouped : utcMoment.Regrouped utcMoment :=
  applied_regrouped _ (.path none "Utc" .nil .nil)

/-- Grouping around an optional vector of moments, around the vector and around a moment makes no
difference. -/
theorem utcMoments_regrouped :
    (applied "Option" (applied "Vec" utcMoment)).Regrouped
      (.paren (applied "Option" (.group (applied "Vec" (.paren utcMoment))))) ∧
    (classify false (applied "Option" (applied "Vec" utcMoment))).Regrouped (· = ·)
      (classify false (.paren (applied "Option" (.group (applied "Vec" (.paren utcMoment)))))) ∧
    (classify false (applied "Option" (applied "Vec" utcMoment))).categoryCode =
      (classify false
        (.paren (applied "Option" (.group (applied "Vec" (.paren utcMoment)))))).categoryCode := by
  have regrouped : (applied "Option" (applied "Vec" utcMoment)).Regrouped
      (.paren (applied "Option" (.group (applied "Vec" (.paren utcMoment))))) :=
    .inParen (applied_regrouped _ (.inGroup (applied_regrouped _ (.inParen utcMoment_regrouped))))
  obtain ⟨exactly, _, generated⟩ := grouping_hides_offsets_only regrouped false
  have same := exactly.2 (Or.inr id)
  exact ⟨regrouped, same, (generated same).2 nofun nofun⟩

/-- The same moment, with its offset in parentheses. -/
def groupedMoment : TypeExpr := applied "DateTime" (.paren (.path ⟨[], none, "Utc"⟩ []))

/-- A moment whose offset is in parentheses is not recognized. -/
theorem groupedMoment_unrecognized : utcMoment.Regrouped groupedMoment ∧
    (classify false utcMoment).kind = .dateTimeOffset false ∧
    (classify false groupedMoment).kind = .other ∧
    ¬(classify false utcMoment).Regrouped (· = ·) (classify false groupedMoment) ∧
    Coercion.ofType (classify false utcMoment) = .general utcMoment ∧
    Coercion.ofType (classify false groupedMoment) = .foreign groupedMoment := by
  have regrouped : utcMoment.Regrouped groupedMoment :=
    applied_regrouped _ (.inParen (.path none "Utc" .nil .nil))
  refine ⟨regrouped, rfl, rfl, fun same => ?_, rfl, rfl⟩
  cases same.kinds

end ClassifiedType

end RecordBinding
