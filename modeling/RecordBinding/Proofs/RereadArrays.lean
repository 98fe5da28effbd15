import RecordBinding.Proofs.Grouping

namespace RecordBinding

namespace ClassifiedType

/-- The same options and vectors, with the innermost type taken for this. -/
def withKind (kind : LeafClass) : ClassifiedType → ClassifiedType
  | leaf type _ => leaf type kind
  | array type item => array type (item.withKind kind)
  | nullable type inner => nullable type (inner.withKind kind)

/-- One type is the other, or lies inside of it under options and vectors. -/
inductive Inside (c : ClassifiedType) : ClassifiedType → Prop
  | self : Inside c c
  | item (type : TypeExpr) {item : ClassifiedType} (inside : Inside c item) :
    Inside c (array type item)
  | inner (type : TypeExpr) {inner : ClassifiedType} (inside : Inside c inner) :
    Inside c (nullable type inner)

theorem kind_withKind (c : ClassifiedType) (kind : LeafClass) : (c.withKind kind).kind = kind := by
  induction c with
  | leaf type _ => rfl
  | array type item ih => exact ih
  | nullable type inner ih => exact ih

/-- Under options and vectors there is only one innermost type. -/
theorem Inside.kind_eq {c d : ClassifiedType} (inside : d.Inside c) : d.kind = c.kind := by
  induction inside with
  | self => rfl
  | item type _ ih => exact ih
  | inner type _ ih => exact ih

theorem Inside.containsOther_eq {c d : ClassifiedType} (inside : d.Inside c) :
    d.containsOther = c.containsOther := by
  rw [ClassifiedType.containsOther_eq, ClassifiedType.containsOther_eq, inside.kind_eq]

theorem exists_leaf_inside (c : ClassifiedType) : ∃ type, (leaf type c.kind).Inside c := by
  induction c with
  | leaf type kind => exact ⟨type, .self⟩
  | array type item ih =>
    obtain ⟨innermost, inside⟩ := ih
    exact ⟨innermost, .item type inside⟩
  | nullable type inner ih =>
    obtain ⟨innermost, inside⟩ := ih
    exact ⟨innermost, .inner type inside⟩

theorem containsOther_iff {c : ClassifiedType} :
    c.containsOther = true ↔ ∃ type, (leaf type .other).Inside c := by
  rw [containsOther_eq, decide_eq_true_iff]
  constructor
  · intro other
    obtain ⟨type, inside⟩ := c.exists_leaf_inside
    exact ⟨type, other ▸ inside⟩
  · rintro ⟨type, inside⟩
    exact inside.kind_eq.symm

theorem containsOther_eq_false_iff {c : ClassifiedType} :
    c.containsOther = false ↔ ∀ type kind, (leaf type kind).Inside c → kind ≠ .other := by
  rw [← Bool.not_eq_true, containsOther_iff]
  constructor
  · rintro known type _ inside rfl
    exact known ⟨type, inside⟩
  · rintro known ⟨type, inside⟩
    exact known type _ inside rfl

/-- Whether a type is marked as enumerated is asked of the innermost type only. -/
theorem classify_enumerated (t : TypeExpr) :
    classify true t = (classify false t).withKind .enum := by
  induction t with
  | group elem ih => exact ih
  | paren elem ih => exact ih
  | applied head turbofish argument comma ih =>
    by_cases option : head.last = "Option"
    · simp only [classify, option, beq_self_eq_true, if_true, withKind, ih]
    · by_cases vector : head.last = "Vec"
      · simp only [classify, vector, String.reduceBEq, Bool.false_eq_true, if_false,
          beq_self_eq_true, if_true, withKind, ih]
      · rw [TypeExpr.classify_of_plain option vector, TypeExpr.classify_of_plain option vector]
        rfl
  | path head arguments => rfl
  | qualified last tokens => rfl
  | written tokens => rfl

end ClassifiedType

namespace Code

theorem inside_parens (content : Code) : content <:+: parens content := ⟨["("], [")"], rfl⟩

theorem inside_braces (content : Code) : content <:+: braces content := ⟨["\x7b"], ["\x7d"], rfl⟩

end Code

namespace Coercion

open ClassifiedType (array)

/-- One coercion is the other, or is applied inside of it to a value or to items. -/
inductive Inside (k : Coercion) : Coercion → Prop
  | self : Inside k k
  | inner {inner : Coercion} (inside : Inside k inner) : Inside k (nullable inner)
  | item {item : Coercion} (inside : Inside k item) : Inside k (eachItem item)

/-- What is applied inside of a coercion stands in its code. -/
theorem Inside.code {k m : Coercion} (inside : k.Inside m) : k.code <:+: m.code := by
  induction inside with
  | self => exact List.infix_rfl
  | @inner inner _ ih =>
    have arm : inner.code <:+: Code.support "Value : : Null = > Ok ( None ) , value = >" ++
        Code.parens inner.code ++ Code.ofText ". map ( Some ) ," :=
      (Code.inside_parens inner.code).trans (List.infix_append _ _ _)
    exact ih.trans (arm.trans ((Code.inside_braces _).trans (List.suffix_append _ _).isInfix))
  | @item item _ ih =>
    have closure : item.code <:+: Code.ofText "value , | value |" ++ item.code :=
      (List.suffix_append _ _).isInfix
    exact ih.trans (closure.trans ((Code.inside_parens _).trans (List.suffix_append _ _).isInfix))

/-- The coercion for a type without options and vectors is applied to the value itself. -/
theorem ofLeaf_ne (type : TypeExpr) (kind : LeafClass) :
    (∀ inner, ofLeaf type kind ≠ nullable inner) ∧ (∀ item, ofLeaf type kind ≠ eachItem item) ∧
      ∀ item, ofLeaf type kind ≠ reread item := by
  unfold ofLeaf
  split
  · exact ⟨nofun, nofun, nofun⟩
  · exact ⟨nofun, nofun, nofun⟩
  · exact ⟨nofun, nofun, nofun⟩
  · split <;> exact ⟨nofun, nofun, nofun⟩

theorem eq_of_inside_ofLeaf {k : Coercion} {type : TypeExpr} {kind : LeafClass}
    (inside : k.Inside (ofLeaf type kind)) : k = ofLeaf type kind := by
  obtain ⟨notNullable, notEach, _⟩ := ofLeaf_ne type kind
  generalize ofLeaf type kind = m at inside notNullable notEach
  cases inside with
  | self => rfl
  | inner _ => exact absurd rfl (notNullable _)
  | item _ => exact absurd rfl (notEach _)

theorem ofType_array_of_known {e : ClassifiedType} (known : e.containsOther = false)
    (type : TypeExpr) : ofType (array type e) = reread e.type := by
  rw [ofType, known, if_neg Bool.false_ne_true]

theorem ofType_array_of_unknown {e : ClassifiedType} (unknown : e.containsOther = true)
    (type : TypeExpr) : ofType (array type e) = eachItem (ofType e) := by
  rw [ofType, unknown, if_pos rfl]

/-- All that is applied inside of the coercion for a type is the coercion for a type inside. -/
theorem exists_of_inside_ofType {k : Coercion} {c : ClassifiedType}
    (inside : k.Inside (ofType c)) : ∃ d : ClassifiedType, d.Inside c ∧ k = ofType d := by
  induction c with
  | leaf type kind => exact ⟨.leaf type kind, .self, eq_of_inside_ofLeaf inside⟩
  | nullable type inner ih =>
    cases inside with
    | self => exact ⟨.nullable type inner, .self, rfl⟩
    | inner inside =>
      obtain ⟨d, within, same⟩ := ih inside
      exact ⟨d, .inner type within, same⟩
  | array type item ih =>
    cases unknown : item.containsOther with
    | false =>
      have rereads := ofType_array_of_known unknown type
      rw [rereads] at inside
      cases inside
      exact ⟨array type item, .self, rereads.symm⟩
    | true =>
      have converts := ofType_array_of_unknown unknown type
      rw [converts] at inside
      cases inside with
      | self => exact ⟨array type item, .self, converts.symm⟩
      | item inside =>
        obtain ⟨d, within, same⟩ := ih inside
        exact ⟨d, .item type within, same⟩

/-- Where a type is not recognized, nothing around it is reread, so that the coercion for every
type around it is applied. -/
theorem inside_ofType_of_unknown {d c : ClassifiedType} (within : d.Inside c)
    (unknown : d.containsOther = true) : (ofType d).Inside (ofType c) := by
  induction within with
  | self => exact .self
  | item type within ih =>
    rw [ofType_array_of_unknown (within.containsOther_eq.symm.trans unknown)]
    exact .item ih
  | inner type _ ih => exact .inner ih

/-- To be reread is the coercion for a vector alone, of items that are recognized. -/
theorem ofType_eq_reread {d : ClassifiedType} {item : TypeExpr} (same : ofType d = reread item) :
    ∃ type e, d = array type e ∧ e.containsOther = false ∧ e.type = item := by
  cases d with
  | leaf type kind => exact absurd same ((ofLeaf_ne type kind).2.2 item)
  | nullable type inner => cases same
  | array type e =>
    cases known : e.containsOther with
    | false =>
      rw [ofType_array_of_known known] at same
      cases same
      exact ⟨type, e, rfl, known, rfl⟩
    | true =>
      rw [ofType_array_of_unknown known] at same
      cases same

/-- To be converted item by item is that for a vector alone, of items that are not. -/
theorem ofType_eq_eachItem {d : ClassifiedType} {k : Coercion} (same : ofType d = eachItem k) :
    ∃ type e, d = array type e ∧ e.containsOther = true ∧ ofType e = k := by
  cases d with
  | leaf type kind => exact absurd same ((ofLeaf_ne type kind).2.1 k)
  | nullable type inner => cases same
  | array type e =>
    cases unknown : e.containsOther with
    | false =>
      rw [ofType_array_of_known unknown] at same
      cases same
    | true =>
      rw [ofType_array_of_unknown unknown] at same
      cases same
      exact ⟨type, e, rfl, unknown, rfl⟩

end Coercion

namespace ClassifiedType

/-- Marking a type as enumerated keeps its options and vectors and takes the innermost type for an
enumerated one, so that nothing of it is not recognized. A type contains an unrecognized one just
when the innermost is. In the code for a type, a list is only ever reread for a vector of which
the innermost type is recognized. A vector of which it is not is converted item by item, however
deep it lies, each item with the coercion for its own type, and nothing else is. -/
theorem reread_arrays_are_recognized :
    (∀ t, classify true t = (classify false t).withKind .enum ∧
      (classify true t).containsOther = false) ∧
    (∀ c, containsOther c = true ↔ ∃ type, (leaf type .other).Inside c) ∧
    (∀ c item, (Coercion.reread item).Inside (.ofType c) →
      ∃ type e, (array type e).Inside c ∧ e.type = item ∧
        ∀ type kind, (leaf type kind).Inside e → kind ≠ .other) ∧
    (∀ c type e, (array type e).Inside c → (∃ type, (leaf type .other).Inside e) →
      Coercion.ofType (array type e) = .eachItem (.ofType e) ∧
        (Coercion.eachItem (.ofType e)).Inside (.ofType c) ∧
        (Coercion.eachItem (.ofType e)).code <:+: (Coercion.ofType c).code) ∧
    ∀ c k, (Coercion.eachItem k).Inside (.ofType c) →
      ∃ type e, (array type e).Inside c ∧ (∃ type, (leaf type .other).Inside e) ∧
        k = .ofType e := by
  refine ⟨fun t => ?_, fun c => containsOther_iff, fun c item inside => ?_,
    fun c type e within unknown => ?_, fun c k inside => ?_⟩
  · have enumerated := classify_enumerated t
    refine ⟨enumerated, ?_⟩
    rw [enumerated, containsOther_eq, kind_withKind]
    rfl
  · obtain ⟨d, within, same⟩ := Coercion.exists_of_inside_ofType inside
    obtain ⟨type, e, rfl, known, rfl⟩ := Coercion.ofType_eq_reread same.symm
    exact ⟨type, e, within, rfl, containsOther_eq_false_iff.1 known⟩
  · have unknown := containsOther_iff.2 unknown
    have converts := Coercion.ofType_array_of_unknown unknown type
    have inside := converts ▸ Coercion.inside_ofType_of_unknown within unknown
    exact ⟨converts, inside, inside.code⟩
  · obtain ⟨d, within, same⟩ := Coercion.exists_of_inside_ofType inside
    obtain ⟨type, e, rfl, unknown, rfl⟩ := Coercion.ofType_eq_eachItem same.symm
    exact ⟨type, e, within, containsOther_iff.1 unknown, rfl⟩

def named (name : String) : TypeExpr := .path ⟨[], none, name⟩ []

/-- `Vec<Option<Vec<Celsius>>>` -/
def temperatures : TypeExpr :=
  applied "Vec" (applied "Option" (applied "Vec" (named "Celsius")))

/-- Temperatures are no type that is recognized, so the inner vector of them is converted item by
item. Marked as enumerated they are, and the outer vector is reread with all that it holds. -/
theorem temperatures_reread_if_enumerated :
    (leaf (named "Celsius") .other).Inside (classify false temperatures) ∧
    (Coercion.eachItem (.foreign (named "Celsius"))).Inside
      (.ofType (classify false temperatures)) ∧
    ∃ type e, (array type e).Inside (classify true temperatures) ∧
      e.type = applied "Option" (applied "Vec" (named "Celsius")) ∧
      ∀ type kind, (leaf type kind).Inside e → kind ≠ .other := by
  obtain ⟨_, _, rereads, converts, _⟩ := reread_arrays_are_recognized
  have shape : classify false temperatures = array temperatures
      (nullable (applied "Option" (applied "Vec" (named "Celsius")))
        (array (applied "Vec" (named "Celsius")) (leaf (named "Celsius") .other))) := rfl
  refine ⟨shape ▸ .item _ (.inner _ (.item _ .self)), ?_, rereads _ _ .self⟩
  rw [shape]
  exact (converts _ _ _ (.item _ (.inner _ .self)) ⟨_, .self⟩).2.1

end ClassifiedType

end RecordBinding
