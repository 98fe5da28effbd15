import RecordBinding.Declaration.StructMapping
import RecordBinding.Proofs.OptionListing
import Mathlib.Data.List.Nodup

namespace RecordBinding

/-- What the attributes that hold options hold, in order. Other attributes may stand between
them. -/
inductive Attribute.Hold {β : Type} (content : List Token → List β → Prop) :
    List Attribute → List β → Prop
  | nil : Hold content [] []
  | foreign {attr rest xs} (other : attr.isRow = false) (later : Hold content rest xs) :
      Hold content (attr :: rest) xs
  | row {attr tokens here rest xs} (own : attr.isRow = true) (body : attr.body = .arguments tokens)
      (holds : content tokens here) (later : Hold content rest xs) :
      Hold content (attr :: rest) (here ++ xs)

namespace OptionGrammar

variable {α : Type} (g : OptionGrammar α)

/-- The options that attributes hold, each of them read to its end. -/
def Lists : List Attribute → List α → Prop :=
  Attribute.Hold fun tokens os => g.listed? tokens = some os

/-- Attributes added one after the other, without a fault in any of them. -/
inductive Gathers : List α → List Attribute → List α → Prop
  | nil {given} : Gathers given [] given
  | foreign {given attr rest all} (other : attr.isRow = false) (later : Gathers given rest all) :
      Gathers given (attr :: rest) all
  | row {given attr between rest all} (own : attr.isRow = true)
      (added : g.addAttribute given attr = (between, none)) (later : Gathers between rest all) :
      Gathers given (attr :: rest) all

variable {g}

/-- Where lists of options are told by their form, so is what attributes hold. -/
theorem lists_eq_of_form {form : α → List Token → Prop}
    (formed : ∀ {tokens os}, g.listed? tokens = some os ↔ CommaList form tokens os) :
    g.Lists = Attribute.Hold (CommaList form) := by
  have same : (fun tokens os => g.listed? tokens = some os) = CommaList form :=
    funext fun tokens => funext fun os => propext formed
  rw [Lists, same]

theorem gathers_nil_iff {given all : List α} : g.Gathers given [] all ↔ given = all := by
  constructor
  · intro gathers
    cases gathers
    rfl
  · rintro rfl
    exact .nil

theorem gathers_foreign_iff {given all : List α} {attr : Attribute} {rest : List Attribute}
    (other : attr.isRow = false) :
    g.Gathers given (attr :: rest) all ↔ g.Gathers given rest all := by
  refine ⟨fun gathers => ?_, .foreign other⟩
  cases gathers with
  | foreign _ later => exact later
  | row own _ _ => cases other.symm.trans own

theorem gathers_row_iff {given between all : List α} {attr : Attribute} {rest : List Attribute}
    {problem : Option Problem} (own : attr.isRow = true)
    (added : g.addAttribute given attr = (between, problem)) :
    g.Gathers given (attr :: rest) all ↔ problem = none ∧ g.Gathers between rest all := by
  constructor
  · intro gathers
    cases gathers with
    | foreign other _ => cases other.symm.trans own
    | row _ clean later =>
      cases added.symm.trans clean
      exact ⟨rfl, later⟩
  · rintro ⟨rfl, later⟩
    exact .row own added later

/-- Options are added without a fault if their text has none and no name is given twice. -/
theorem add_eq_iff {given all : List α} {t : OptionText α} (distinct : (given.map g.name).Nodup) :
    g.add given t = (all, none) ↔
      ∃ os, t.options? = some os ∧ all = given ++ os ∧ (all.map g.name).Nodup := by
  induction t generalizing given with
  | done =>
    constructor
    · intro added
      cases added
      exact ⟨[], rfl, (List.append_nil _).symm, distinct⟩
    · rintro ⟨os, listed, rfl, _⟩
      cases listed
      rw [List.append_nil]
      rfl
  | fault p => exact iff_of_false nofun nofun
  | faultAfter name p => exact iff_of_false nofun nofun
  | option o rest ih =>
    rw [add]
    split
    · rename_i taken
      refine iff_of_false nofun ?_
      rintro ⟨os, listed, rfl, distinct⟩
      obtain ⟨later, _, rfl⟩ := Option.map_eq_some_iff.1 listed
      obtain ⟨p, member, same⟩ := List.any_eq_true.1 taken
      rw [List.map_append, List.nodup_append] at distinct
      exact distinct.2.2 _ (List.mem_map_of_mem member) _
        (List.mem_map_of_mem List.mem_cons_self) (beq_iff_eq.1 same)
    · rename_i new
      have apart : ∀ p ∈ given, g.name p ≠ g.name o := fun p member same =>
        new (List.any_eq_true.2 ⟨p, member, beq_iff_eq.2 same⟩)
      have extended : ((given ++ [o]).map g.name).Nodup := by
        rw [List.map_append, List.nodup_append]
        refine ⟨distinct, List.nodup_singleton _, ?_⟩
        intro name before name' last
        obtain ⟨p, member, rfl⟩ := List.mem_map.1 before
        rw [List.mem_singleton.1 last]
        exact apart p member
      rw [ih extended]
      constructor
      · rintro ⟨os, listed, rfl, distinct⟩
        rw [List.append_assoc] at distinct ⊢
        exact ⟨o :: os, by rw [OptionText.options?, listed]; rfl, rfl, distinct⟩
      · rintro ⟨os, listed, rfl, distinct⟩
        obtain ⟨later, inRest, rfl⟩ := Option.map_eq_some_iff.1 listed
        exact ⟨later, inRest, List.append_cons given o later, distinct⟩

theorem addAttribute_eq_iff {given all : List α} {attr : Attribute}
    (distinct : (given.map g.name).Nodup) :
    g.addAttribute given attr = (all, none) ↔ ∃ tokens os, attr.body = .arguments tokens ∧
      g.listed? tokens = some os ∧ all = given ++ os ∧ (all.map g.name).Nodup := by
  rw [addAttribute]
  cases attr.body with
  | bare => exact iff_of_false nofun nofun
  | value => exact iff_of_false nofun nofun
  | arguments tokens =>
    constructor
    · intro added
      obtain ⟨os, listed⟩ := (add_eq_iff distinct).1 added
      exact ⟨tokens, os, rfl, listed⟩
    · rintro ⟨_, os, same, listed⟩
      cases same
      exact (add_eq_iff distinct).2 ⟨os, listed⟩

/-- What counts is all the options together: neither how many attributes they are spread
over, nor which of them come first. -/
theorem gathers_iff {given all : List α} {attrs : List Attribute}
    (distinct : (given.map g.name).Nodup) :
    g.Gathers given attrs all ↔
      ∃ os, g.Lists attrs os ∧ all = given ++ os ∧ (all.map g.name).Nodup := by
  constructor
  · intro gathers
    induction gathers with
    | nil => exact ⟨[], .nil, (List.append_nil _).symm, distinct⟩
    | foreign other _ ih =>
      obtain ⟨os, lists, same⟩ := ih distinct
      exact ⟨os, .foreign other lists, same⟩
    | row own added _ ih =>
      obtain ⟨tokens, here, body, listed, rfl, distinct⟩ := (addAttribute_eq_iff distinct).1 added
      obtain ⟨later, lists, rfl, distinct⟩ := ih distinct
      exact ⟨here ++ later, .row own body listed lists, List.append_assoc _ _ _, distinct⟩
  · rintro ⟨os, lists, rfl, distinct'⟩
    induction lists generalizing given with
    | nil =>
      rw [List.append_nil]
      exact .nil
    | foreign other _ ih => exact .foreign other (ih distinct distinct')
    | @row attr tokens here rest later own body listed _ ih =>
      rw [← List.append_assoc] at distinct' ⊢
      have between : ((given ++ here).map g.name).Nodup := by
        rw [List.map_append] at distinct'
        exact distinct'.of_append_left
      exact .row own ((addAttribute_eq_iff distinct).2 ⟨tokens, here, body, listed, rfl, between⟩)
        (ih between distinct')

theorem gathers_none_iff {all : List α} {attrs : List Attribute} :
    g.Gathers [] attrs all ↔ g.Lists attrs all ∧ (all.map g.name).Nodup := by
  have distinct : (([] : List α).map g.name).Nodup := List.nodup_nil
  rw [gathers_iff distinct]
  constructor
  · rintro ⟨os, lists, rfl, distinct⟩
    exact ⟨lists, distinct⟩
  · rintro ⟨lists, distinct⟩
    exact ⟨all, lists, rfl, distinct⟩

end OptionGrammar

namespace FieldOption

theorem collect_eq_iff {given all : List FieldOption} {attrs : List Attribute} :
    collect given (attrs.filter (·.isRow)) = (all, []) ↔ grammar.Gathers given attrs all := by
  induction attrs generalizing given with
  | nil =>
    rw [OptionGrammar.gathers_nil_iff, List.filter_nil, collect, Prod.mk.injEq]
    exact and_iff_left rfl
  | cons attr rest ih =>
    cases own : attr.isRow with
    | false =>
      rw [List.filter_cons_of_neg (Bool.not_eq_true _ ▸ own), ih,
        OptionGrammar.gathers_foreign_iff own]
    | true =>
      rw [List.filter_cons_of_pos own, collect]
      cases added : grammar.addAttribute given attr with
      | mk between problem =>
        rw [OptionGrammar.gathers_row_iff own added, ← ih]
        cases problem with
        | none => exact (and_iff_right rfl).symm
        | some p => exact iff_of_false nofun fun both => nomatch both.1

theorem isBinding_iff {o : FieldOption} : o.isBinding = true ↔ o ≠ .skip ∧ o ≠ .flatten := by
  cases o <;> simp [isBinding]

theorem eq_singleton_iff {given : List FieldOption} (distinct : (given.map name).Nodup)
    {o : FieldOption} (member : o ∈ given) : given = [o] ↔ ∀ p ∈ given, p = o := by
  constructor
  · rintro rfl p member
    exact List.mem_singleton.1 member
  · intro same
    match given with
    | [p] => rw [same p List.mem_cons_self]
    | p :: q :: rest =>
      have first := same p List.mem_cons_self
      have second := same q (List.mem_cons_of_mem p List.mem_cons_self)
      subst first
      subst second
      simp at distinct

/-- No two options exclude each other if one that stands alone is the only one, and a field is
not closed on both sides. -/
theorem conflicts_eq_nil_iff {given : List FieldOption} (distinct : (given.map name).Nodup) :
    conflicts given = [] ↔ (.skip ∈ given → given = [.skip]) ∧
      (.flatten ∈ given → given = [.flatten]) ∧ ¬(.readOnly ∈ given ∧ .writeOnly ∈ given) := by
  have binding : given.any isBinding = true ↔ ∃ o ∈ given, o ≠ .skip ∧ o ≠ .flatten := by
    simp only [List.any_eq_true, isBinding_iff]
  have alone : ∀ o : FieldOption, (o ∈ given → given = [o]) ↔ (o ∈ given → ∀ p ∈ given, p = o) :=
    fun o => forall_congr' (eq_singleton_iff distinct)
  rw [alone, alone]
  simp only [conflicts, List.append_eq_nil_iff, ite_eq_right_iff, List.cons_ne_nil, imp_false,
    Bool.and_eq_true, Bool.or_eq_true, Bool.not_eq_true', List.contains_iff_mem, binding]
  constructor
  · rintro ⟨⟨skipAlone, access⟩, flattenAlone⟩
    have notBoth : .skip ∈ given → .flatten ∉ given := fun skipped flattened =>
      skipAlone ⟨skipped, Or.inl flattened⟩
    refine ⟨fun skipped p member => ?_, fun flattened p member => ?_, access⟩
    · by_contra other
      have named : p ≠ .flatten := fun same => notBoth skipped (same ▸ member)
      exact skipAlone ⟨skipped, Or.inr ⟨p, member, other, named⟩⟩
    · by_contra other
      have bound : p ≠ .skip := fun same => notBoth (same ▸ member) flattened
      have kept : given.contains .skip = false :=
        Bool.eq_false_iff.2 fun skipped => notBoth (List.contains_iff_mem.1 skipped) flattened
      exact flattenAlone ⟨⟨flattened, kept⟩, p, member, bound, other⟩
  · rintro ⟨skipAlone, flattenAlone, access⟩
    refine ⟨⟨?_, access⟩, ?_⟩
    · rintro ⟨skipped, flattened | ⟨p, member, other, _⟩⟩
      · cases skipAlone skipped _ flattened
      · exact other (skipAlone skipped p member)
    · rintro ⟨⟨flattened, _⟩, p, member, _, other⟩
      exact other (flattenAlone flattened p member)

theorem ofAttributes_eq_ok_iff {attrs : List Attribute} {given : List FieldOption} :
    ofAttributes attrs = .ok given ↔ grammar.Lists attrs given ∧ (given.map name).Nodup ∧
      (.skip ∈ given → given = [.skip]) ∧ (.flatten ∈ given → given = [.flatten]) ∧
        ¬(.readOnly ∈ given ∧ .writeOnly ∈ given) := by
  have collected : ofAttributes attrs = .ok given ↔
      collect [] (attrs.filter (·.isRow)) = (given, []) ∧ conflicts given = [] := by
    rw [ofAttributes]
    cases collect [] (attrs.filter (·.isRow)) with
    | mk all problems =>
      simp only [Prod.mk.injEq, and_assoc]
      cases found : problems ++ conflicts all with
      | nil =>
        obtain ⟨silent, apart⟩ := List.append_eq_nil_iff.1 found
        constructor
        · intro accepted
          cases accepted
          exact ⟨rfl, silent, apart⟩
        · rintro ⟨rfl, _⟩
          rfl
      | cons p rest =>
        refine iff_of_false nofun ?_
        rintro ⟨rfl, silent, apart⟩
        rw [silent, apart] at found
        cases found
  rw [collected, collect_eq_iff, OptionGrammar.gathers_none_iff, and_assoc]
  refine and_congr_right fun _ => and_congr_right fun distinct => ?_
  exact conflicts_eq_nil_iff distinct

end FieldOption

namespace ContainerOption

/-- An instance is said to come about in one way, and not to come about. -/
def Contradict (given : List ContainerOption) : Prop :=
  .noConstructor ∈ given ∧ ∃ path, .constructor path ∈ given

theorem contradict_iff {given : List ContainerOption} :
    (given.any isNoConstructor && given.any isConstructor) = true ↔ Contradict given := by
  simp only [Bool.and_eq_true, List.any_eq_true]
  refine and_congr ⟨?_, ?_⟩ ⟨?_, ?_⟩
  · rintro ⟨o, member, marked⟩
    cases o with
    | noConstructor => exact member
    | _ => cases marked
  · exact fun member => ⟨_, member, rfl⟩
  · rintro ⟨o, member, marked⟩
    cases o with
    | constructor path => exact ⟨path, member⟩
    | _ => cases marked
  · rintro ⟨path, member⟩
    exact ⟨_, member, rfl⟩

/-- The contradiction is looked for after each attribute, but it is there in the end if it was
there at any time. -/
theorem collect_eq_iff {given all : List ContainerOption} {attrs : List Attribute}
    (distinct : (given.map grammar.name).Nodup) (agree : ¬Contradict given) :
    collect given (attrs.filter (·.isRow)) = (all, []) ↔
      grammar.Gathers given attrs all ∧ ¬Contradict all := by
  induction attrs generalizing given with
  | nil =>
    rw [OptionGrammar.gathers_nil_iff, List.filter_nil, collect, Prod.mk.injEq]
    constructor
    · rintro ⟨rfl, _⟩
      exact ⟨rfl, agree⟩
    · rintro ⟨rfl, _⟩
      exact ⟨rfl, rfl⟩
  | cons attr rest ih =>
    cases own : attr.isRow with
    | false =>
      rw [List.filter_cons_of_neg (Bool.not_eq_true _ ▸ own), ih distinct agree,
        OptionGrammar.gathers_foreign_iff own]
    | true =>
      rw [List.filter_cons_of_pos own, collect]
      cases added : grammar.addAttribute given attr with
      | mk between problem =>
        rw [OptionGrammar.gathers_row_iff own added]
        cases problem with
        | some p => exact iff_of_false nofun fun both => nomatch both.1.1
        | none =>
          obtain ⟨_, os, _, _, rfl, distinct⟩ :=
            (OptionGrammar.addAttribute_eq_iff distinct).1 added
          by_cases both : Contradict (given ++ os)
          · simp only [contradict_iff.2 both, if_true]
            refine iff_of_false (fun same => nomatch (Prod.mk.inj same).2) fun accepted => ?_
            obtain ⟨later, _, rfl, _⟩ := (OptionGrammar.gathers_iff distinct).1 accepted.1.2
            obtain ⟨⟨none, path, some⟩, agree⟩ := And.intro both accepted.2
            exact agree ⟨List.mem_append_left _ none, path, List.mem_append_left _ some⟩
          · simp only [Bool.eq_false_iff.2 (mt contradict_iff.1 both)]
            exact (ih distinct both).trans (and_congr_left' (and_iff_right trivial).symm)

theorem ofAttributes_eq_ok_iff {attrs : List Attribute} {given : List ContainerOption} :
    ofAttributes attrs = .ok given ↔ grammar.Lists attrs given ∧ (given.map name).Nodup ∧
      ¬Contradict given := by
  have collected : ofAttributes attrs = .ok given ↔
      collect [] (attrs.filter (·.isRow)) = (given, []) := by
    rw [ofAttributes]
    cases collect [] (attrs.filter (·.isRow)) with
    | mk all problems =>
      cases problems with
      | nil =>
        constructor
        · intro accepted
          cases accepted
          rfl
        · intro same
          cases same
          rfl
      | cons p rest => exact iff_of_false nofun nofun
  have agree : ¬Contradict [] := fun both => List.not_mem_nil both.1
  have distinct : (([] : List ContainerOption).map grammar.name).Nodup := List.nodup_nil
  rw [collected, collect_eq_iff distinct agree, OptionGrammar.gathers_none_iff, and_assoc]
  rfl

end ContainerOption

end RecordBinding
