import RecordBinding.Proofs.OptionForm
import RecordBinding.Proofs.OptionSet
import RecordBinding.Proofs.PathLocality
import Mathlib.Data.List.Nodup
import Mathlib.Data.List.Perm.Basic

namespace RecordBinding

open Reader

/-- Some tokens without a comma. Anything that stands between the commas of a text is such a
part of it. -/
def Unbroken (part : List Token) : Prop := part ≠ [] ∧ ∀ joint, .punct ',' joint ∉ part

/-- Two outcomes are alike: both are results that are the same in what counts, or neither is
a result. -/
inductive Concur {ε α : Type} (same : α → α → Prop) : Except ε α → Except ε α → Prop
  | accepted {a b} (like : same a b) : Concur same (.ok a) (.ok b)
  | refused {e e'} : Concur same (.error e) (.error e')

theorem Concur.of_imp {ε α : Type} {same : α → α → Prop} {x y : Except ε α}
    (kept : ∀ a, x = .ok a → ∃ b, y = .ok b ∧ same a b) (back : ∀ b, y = .ok b → ∃ a, x = .ok a) :
    Concur same x y := by
  cases accepted : x with
  | ok a =>
    obtain ⟨b, rfl, like⟩ := kept a accepted
    exact .accepted like
  | error e =>
    cases accepted' : y with
    | ok b =>
      obtain ⟨a, found⟩ := back b accepted'
      cases accepted.symm.trans found
    | error e' => exact .refused

/-- A text falls into parts in one way only, if the commas stand between the parts. -/
theorem part_unique {part part' rest rest' : List Token} (same : part ++ rest = part' ++ rest')
    (whole : ∀ joint, .punct ',' joint ∉ part) (whole' : ∀ joint, .punct ',' joint ∉ part')
    (separated : Separated rest) (separated' : Separated rest') : part = part' := by
  have ends : ∀ {t : Token} {after : List Token}, Separated (t :: after) →
      ∃ joint, t = .punct ',' joint := by
    rintro t after (none | comma)
    · cases none
    · obtain ⟨joint, _, same⟩ := isPunct_comma_iff.1 comma
      exact ⟨joint, (List.cons.inj same).1⟩
  induction part generalizing part' with
  | nil =>
    cases part' with
    | nil => rfl
    | cons t part' =>
      rw [List.nil_append] at same
      subst same
      obtain ⟨joint, rfl⟩ := ends separated
      exact absurd List.mem_cons_self (whole' joint)
  | cons t part ih =>
    cases part' with
    | nil =>
      rw [List.nil_append] at same
      subst same
      obtain ⟨joint, rfl⟩ := ends separated'
      exact absurd List.mem_cons_self (whole joint)
    | cons t' part' =>
      obtain ⟨rfl, later⟩ := List.cons.inj same
      rw [ih later (fun joint => mt (List.mem_cons_of_mem t) (whole joint))
        (fun joint => mt (List.mem_cons_of_mem t) (whole' joint))]

theorem Attribute.Hold.map {β γ : Type} {content : List Token → List β → Prop}
    {other : List Token → List γ → Prop} (f : β → γ)
    (written : ∀ tokens xs, content tokens xs → other tokens (xs.map f)) {attrs : List Attribute}
    {xs : List β} (hold : Hold content attrs xs) : Hold other attrs (xs.map f) := by
  induction hold with
  | nil => exact .nil
  | foreign other _ ih => exact .foreign other ih
  | row own body holds _ ih =>
    rw [List.map_append]
    exact .row own body (written _ _ holds) ih

/-- At most one of some differently named things is looked for, so their order does not
matter. -/
theorem findSome?_perm {α β : Type} (name : α → String) {f : α → Option β} (word : String)
    (named : ∀ o b, f o = some b → name o = word) {xs ys : List α} (perm : xs.Perm ys)
    (distinct : (xs.map name).Nodup) : xs.findSome? f = ys.findSome? f := by
  have found : ∀ {xs : List α}, (xs.map name).Nodup → ∀ b,
      xs.findSome? f = some b ↔ ∃ o ∈ xs, f o = some b := by
    intro xs distinct b
    constructor
    · exact List.exists_of_findSome?_eq_some
    · rintro ⟨o, member, same⟩
      have some : (xs.findSome? f).isSome :=
        List.findSome?_isSome_iff.2 ⟨o, member, by rw [same]; rfl⟩
      obtain ⟨c, first⟩ := Option.isSome_iff_exists.1 some
      obtain ⟨p, member', same'⟩ := List.exists_of_findSome?_eq_some first
      have one := List.inj_on_of_nodup_map distinct member' member
        ((named p c same').trans (named o b same).symm)
      rw [first, ← same', one, same]
  refine Option.ext fun b => ?_
  rw [found distinct, found ((perm.map name).nodup_iff.1 distinct)]
  exact exists_congr fun o => and_congr_left' perm.mem_iff

namespace OptionGrammar

variable {α : Type} {g : OptionGrammar α}

/-- Attributes with nothing but options and other texts in them list options if and only if
there are no other texts. -/
theorem lists_iff_of_means {attrs : List Attribute} {meanings : List (Option α)} {os : List α}
    (hold : Attribute.Hold (CommaList g.Means) attrs meanings) :
    g.Lists attrs os ↔ meanings = os.map some := by
  induction hold generalizing os with
  | nil =>
    constructor
    · intro lists
      cases lists
      rfl
    · intro same
      rw [List.map_eq_nil_iff.1 same.symm]
      exact .nil
  | foreign other _ ih =>
    rw [← ih]
    refine ⟨fun lists => ?_, .foreign other⟩
    cases lists with
    | foreign _ later => exact later
    | row own _ _ _ => cases other.symm.trans own
  | row own body holds _ ih =>
    constructor
    · intro lists
      cases lists with
      | foreign other _ => cases other.symm.trans own
      | row _ body' listed later =>
        cases body.symm.trans body'
        rw [(listed?_of_means holds).1 listed, ih.1 later, List.map_append]
    · intro same
      obtain ⟨here, later, rfl, first, last⟩ := List.map_eq_append_iff.1 same.symm
      exact .row own body ((listed?_of_means holds).2 first.symm) (ih.2 last.symm)

/-- Parts in another order, or in other attributes, list the same options. -/
theorem lists_of_perm {attrs attrs' : List Attribute} {meanings meanings' : List (Option α)}
    (hold : Attribute.Hold (CommaList g.Means) attrs meanings)
    (hold' : Attribute.Hold (CommaList g.Means) attrs' meanings') (perm : meanings.Perm meanings')
    {os : List α} (lists : g.Lists attrs os) : ∃ os', g.Lists attrs' os' ∧ os.Perm os' := by
  have all := (lists_iff_of_means hold).1 lists
  have known : Relation.Comp (· = List.map some ·) List.Perm meanings' os := by
    rw [List.eq_map_comp_perm]
    have same : meanings'.Perm (os.map some) := all ▸ perm.symm
    exact same
  obtain ⟨os', same, perm'⟩ := known
  exact ⟨os', (lists_iff_of_means hold').2 same, perm'.symm⟩

/-- If the options that are read from a part, with anything after it, are of a certain form,
then the part is of the form of one, or no list of options has it in it. -/
theorem exists_means {form : α → List Token → Prop} {part : List Token}
    (formed : ∀ {r s o} rest, r.input = part ++ rest → g.Takes o r s →
      ∃ part', r.input = part' ++ s.input ∧ form o part')
    (whole : ∀ {o part'}, form o part' → Unbroken part')
    (written : ∀ o, form o part → g.Writes o part) (unbroken : Unbroken part) :
    ∃ meaning, g.Means meaning part := by
  by_cases known : ∃ o, form o part
  · obtain ⟨o, known⟩ := known
    exact ⟨some o, written o known⟩
  · refine ⟨none, ?_⟩
    intro bound r rest input _ separated
    have begun : r.input ≠ [] := by
      rw [input]
      exact mt List.append_eq_nil_iff.1 fun both => unbroken.1 both.1
    have taken : ∀ {o s}, g.Takes o r s → ¬Separated s.input := by
      intro o s takes separated'
      obtain ⟨part', input', form⟩ := formed rest input takes
      have same := part_unique (input.symm.trans input') unbroken.2 (whole form).2 separated
        separated'
      exact known ⟨o, same ▸ form⟩
    refine Option.eq_none_iff_forall_ne_some.2 fun os listed => ?_
    cases optionList_of_text listed with
    | ended input _ => exact begun input
    | last takes last _ => exact taken takes (Or.inl last)
    | next takes comma _ => exact taken takes (Or.inr comma)

/-- Parts in another order, or in other attributes, list the same options, if each of them
means something. -/
theorem lists_of_parts {isPart : List Token → List Token → Prop}
    (means : ∀ {part tokens}, isPart part tokens → tokens = part ∧ ∃ meaning, g.Means meaning part)
    {attrs attrs' : List Attribute} {parts parts' : List (List Token)}
    (hold : Attribute.Hold (CommaList isPart) attrs parts)
    (hold' : Attribute.Hold (CommaList isPart) attrs' parts') (perm : parts.Perm parts')
    {os : List α} (lists : g.Lists attrs os) : ∃ os', g.Lists attrs' os' ∧ os.Perm os' := by
  have each : ∀ part, ∃ meaning, isPart part part → g.Means meaning part := by
    intro part
    by_cases valid : isPart part part
    · obtain ⟨_, meaning, meant⟩ := means valid
      exact ⟨meaning, fun _ => meant⟩
    · exact ⟨none, fun valid' => absurd valid' valid⟩
  obtain ⟨meaning, meant⟩ := Classical.skolem.1 each
  have written : ∀ part tokens, isPart part tokens → g.Means (meaning part) tokens := by
    intro part tokens valid
    obtain ⟨rfl, _⟩ := means valid
    exact meant _ valid
  exact lists_of_perm (hold.map meaning fun _ _ listed => listed.map meaning written)
    (hold'.map meaning fun _ _ listed => listed.map meaning written) (perm.map meaning) lists

end OptionGrammar

namespace FieldOption

/-- Tokens that are a part of a text, whatever they say. -/
def IsPart (part tokens : List Token) : Prop := tokens = part ∧ Unbroken part

theorem unbroken_of_form {o : FieldOption} {part : List Token} (form : Form o part) :
    Unbroken part := by
  cases o with
  | rename name =>
    obtain ⟨joint, text, rfl⟩ := form
    exact ⟨List.cons_ne_nil _ _, fun joint => by simp⟩
  | _ =>
    cases form
    exact ⟨List.cons_ne_nil _ _, fun joint => by simp⟩

theorem means_of_isPart {part tokens : List Token} (valid : IsPart part tokens) :
    tokens = part ∧ ∃ meaning, grammar.Means meaning part := by
  obtain ⟨rfl, unbroken⟩ := valid
  exact ⟨rfl, OptionGrammar.exists_means (fun _ _ takes => form_of_run_option takes)
    unbroken_of_form (fun o => writes_of_form o _) unbroken⟩

/-- What field options say, apart from their order. -/
def Same (given given' : List FieldOption) : Prop :=
  given.Perm given' ∧ rename? given = rename? given'

theorem same_of_perm {given given' : List FieldOption} (perm : given.Perm given')
    (distinct : (given.map name).Nodup) : Same given given' := by
  refine ⟨perm, findSome?_perm name "rename" ?_ perm distinct⟩
  intro o text found
  cases o <;> cases found
  rfl

/-- Options in another order, or in other attributes, are accepted too. -/
theorem ofAttributes_of_perm {attrs attrs' : List Attribute} {parts parts' : List (List Token)}
    (hold : Attribute.Hold (CommaList IsPart) attrs parts)
    (hold' : Attribute.Hold (CommaList IsPart) attrs' parts') (perm : parts.Perm parts')
    {given : List FieldOption} (accepted : ofAttributes attrs = .ok given) :
    ∃ given', ofAttributes attrs' = .ok given' ∧ Same given given' := by
  obtain ⟨lists, distinct, skipAlone, flattenAlone, access⟩ := ofAttributes_eq_ok_iff.1 accepted
  obtain ⟨given', lists', perm'⟩ :=
    OptionGrammar.lists_of_parts means_of_isPart hold hold' perm lists
  have alone : ∀ {o}, (o ∈ given → given = [o]) → o ∈ given' → given' = [o] := by
    intro o alone member
    exact List.perm_singleton.1 (alone (perm'.mem_iff.2 member) ▸ perm'.symm)
  refine ⟨given', ofAttributes_eq_ok_iff.2 ⟨lists', ?_, ?_, ?_, ?_⟩, same_of_perm perm' distinct⟩
  · exact (perm'.map name).nodup_iff.1 distinct
  · exact alone skipAlone
  · exact alone flattenAlone
  · rintro ⟨closed, closed'⟩
    exact access ⟨perm'.mem_iff.2 closed, perm'.mem_iff.2 closed'⟩

end FieldOption

namespace ContainerOption

/-- What container options say, apart from their order. -/
def Same (given given' : List ContainerOption) : Prop :=
  given.Perm given' ∧ rename? given = rename? given' ∧
    StructMapping.constructionOf given = StructMapping.constructionOf given'

theorem same_of_perm {given given' : List ContainerOption} (perm : given.Perm given')
    (distinct : (given.map name).Nodup) : Same given given' := by
  have rule : rename? given = rename? given' := by
    refine findSome?_perm name "rename_all" ?_ perm distinct
    intro o rule found
    cases o <;> cases found
    rfl
  have path : constructor? given = constructor? given' := by
    refine findSome?_perm name "constructor" ?_ perm distinct
    intro o path found
    cases o <;> cases found
    rfl
  have impossible : given.any isNoConstructor = given'.any isNoConstructor := perm.any_eq
  refine ⟨perm, rule, ?_⟩
  rw [StructMapping.constructionOf, StructMapping.constructionOf, path, impossible]

/-- How an option other than a constructor is written. -/
def ShortForm : ContainerOption → List Token → Prop
  | renameAll rule, part => ∃ joint text,
    part = [.ident "rename_all", .punct '=' joint, .literal ⟨text, .string rule.spelling⟩]
  | noConstructor, part => part = [.ident "no_constructor"]
  | constructor _, _ => False

theorem shortForm_of_takes {o : ContainerOption} {r s : Reading} (takes : Takes o r s)
    (other : ∀ rest, r.input ≠ .ident "constructor" :: rest) :
    ∃ part, r.input = part ++ s.input ∧ ShortForm o part := by
  cases takes with
  | @renameAll r rule joint text rest input =>
    have after := Reading.after_one_input (Reading.after_one_input (Reading.after_one_input input))
    rw [after]
    exact ⟨_, input, joint, text, rfl⟩
  | @noConstructor r rest input _ =>
    rw [Reading.after_one_input input]
    exact ⟨_, input, rfl⟩
  | constructor input _ => exact absurd input (other _)

theorem unbroken_of_shortForm {o : ContainerOption} {part : List Token} (form : ShortForm o part) :
    Unbroken part := by
  cases o with
  | renameAll rule =>
    obtain ⟨joint, text, rfl⟩ := form
    exact ⟨List.cons_ne_nil _ _, fun joint => by simp⟩
  | noConstructor =>
    cases form
    exact ⟨List.cons_ne_nil _ _, fun joint => by simp⟩
  | constructor path => cases form

theorem writes_of_shortForm (o : ContainerOption) {part : List Token} (form : ShortForm o part) :
    grammar.Writes o part := by
  cases o with
  | renameAll rule =>
    obtain ⟨joint, text, rfl⟩ := form
    refine OptionGrammar.writes_string rfl ?_ joint text
    intro r s value
    exact run_map_eq_ok_iff.2 ⟨rule, run_ruleValue_eq_ok_iff.2 value, rfl⟩
  | noConstructor =>
    cases form
    exact OptionGrammar.writes_word rfl
  | constructor path => cases form

/-- A text that is read as an option by itself is read as that option wherever it stands. -/
theorem writes_of_takes {o : ContainerOption} {part : List Token} {s : Reading}
    (takes : Takes o (.start part) s) (ended : s.input = []) (closed : s.unread = none) :
    grammar.Writes o part := by
  cases takes with
  | @renameAll _ rule joint text rest input =>
    have after := Reading.after_one_input (Reading.after_one_input input)
    have last : rest = [] := (Reading.after_one_input after).symm.trans ended
    subst last
    exact writes_of_shortForm _ ⟨joint, text, input⟩
  | noConstructor input _ =>
    have last := (Reading.after_one_input input).symm.trans ended
    subst last
    exact writes_of_shortForm noConstructor input
  | @constructor _ _ joint rest p input read =>
    have begins : part = .ident "constructor" :: .punct '=' joint :: rest := input
    subst begins
    have reads : Moves (Reader.path .forAnyText false) := Local.path (.ofDepth _) false
    obtain ⟨-, -, written, -, alike⟩ := reads _ _ _ _ _ trivial read
    rintro ⟨tokens, copy, unread⟩ after rfl rfl separated
    refine ⟨_, takes_iff.2 (.constructor rfl (alike after _ separated)), ?_, closed⟩
    rw [ended]
    rfl

/-- Tokens that are a part of a text. Without a comma they are one whatever they say. But a path
may have commas in it, so the text of a constructor is one if it is read as an option by itself,
or else if no text that has it in it is accepted. -/
def IsPart (part tokens : List Token) : Prop :=
  tokens = part ∧ (Unbroken part ∧ part.head? ≠ some (.ident "constructor") ∨
    (∃ o s, Takes o (.start part) s ∧ s.input = [] ∧ s.unread = none) ∨ grammar.Spoils part)

theorem means_of_isPart {part tokens : List Token} (valid : IsPart part tokens) :
    tokens = part ∧ ∃ meaning, grammar.Means meaning part := by
  refine ⟨valid.1, ?_⟩
  rcases valid.2 with ⟨unbroken, other⟩ | ⟨o, s, takes, ended, closed⟩ | spoils
  · refine OptionGrammar.exists_means (fun {r s o} rest input takes => ?_) unbroken_of_shortForm
      (fun o => writes_of_shortForm o) unbroken
    refine shortForm_of_takes (takes_iff.1 takes) fun rest' input' => other ?_
    have head := congrArg List.head? (input.symm.trans input')
    rwa [List.head?_append_of_ne_nil _ unbroken.1] at head
  · exact ⟨some o, writes_of_takes takes ended closed⟩
  · exact ⟨none, spoils⟩

theorem ofAttributes_of_perm {attrs attrs' : List Attribute} {parts parts' : List (List Token)}
    (hold : Attribute.Hold (CommaList IsPart) attrs parts)
    (hold' : Attribute.Hold (CommaList IsPart) attrs' parts') (perm : parts.Perm parts')
    {given : List ContainerOption}
    (accepted : ofAttributes attrs = .ok given) :
    ∃ given', ofAttributes attrs' = .ok given' ∧ Same given given' := by
  obtain ⟨lists, distinct, agree⟩ := ofAttributes_eq_ok_iff.1 accepted
  obtain ⟨given', lists', perm'⟩ :=
    OptionGrammar.lists_of_parts means_of_isPart hold hold' perm lists
  refine ⟨given', ofAttributes_eq_ok_iff.2 ⟨lists', ?_, ?_⟩, same_of_perm perm' distinct⟩
  · exact (perm'.map name).nodup_iff.1 distinct
  · rintro ⟨none, path, some⟩
    exact agree ⟨perm'.mem_iff.2 none, path, perm'.mem_iff.2 some⟩

theorem length_le_of_distinct {given : List ContainerOption} (distinct : (given.map name).Nodup) :
    given.length ≤ 3 := by
  have known : given.map name ⊆ ["rename_all", "constructor", "no_constructor"] := by
    intro word member
    obtain ⟨o, _, rfl⟩ := List.mem_map.1 member
    cases o <;> simp [name]
  have few := (List.subperm_of_subset distinct known).length_le
  rwa [List.length_map] at few

/-- Differently named options are so few that none of them is out of a text's reach. -/
theorem listed?_iff_of_distinct {tokens : List Token} {given : List ContainerOption}
    (distinct : (given.map name).Nodup) :
    grammar.listed? tokens = some given ↔ OptionList Takes (.start tokens) given := by
  have enough : given.length < readingDepth tokens := by
    have few := length_le_of_distinct distinct
    rw [readingDepth]
    omega
  constructor
  · intro listed
    exact (OptionGrammar.optionList_of_text listed).imp fun _ _ _ => takes_iff.1
  · intro listed
    exact OptionGrammar.options?_of_optionList (listed.imp fun _ _ _ => takes_iff.2) enough

theorem lists_iff_of_distinct {attrs : List Attribute} {given : List ContainerOption}
    (distinct : (given.map name).Nodup) : grammar.Lists attrs given ↔
      Attribute.Hold (fun tokens => OptionList Takes (.start tokens)) attrs given := by
  constructor
  · intro lists
    induction lists with
    | nil => exact .nil
    | foreign other _ ih => exact .foreign other (ih distinct)
    | row own body listed _ ih =>
      rw [List.map_append] at distinct
      exact .row own body ((listed?_iff_of_distinct distinct.of_append_left).1 listed)
        (ih distinct.of_append_right)
  · intro hold
    induction hold with
    | nil => exact .nil
    | foreign other _ ih => exact .foreign other (ih distinct)
    | row own body listed _ ih =>
      rw [List.map_append] at distinct
      exact .row own body ((listed?_iff_of_distinct distinct.of_append_left).2 listed)
        (ih distinct.of_append_right)

end ContainerOption

/-- The options of a field or of a type are a set. They are accepted if and only if each is
known and well formed, none is given twice, and no two exclude each other. Neither their order
counts nor how they are spread over attributes, with whatever other attributes in between: the
parts of the texts may change places, and then either both are refused, or both are accepted
and say the same. -/
theorem options_form_a_set :
    (∀ attrs given, FieldOption.ofAttributes attrs = .ok given ↔
      Attribute.Hold (CommaList FieldOption.Form) attrs given ∧ (given.map FieldOption.name).Nodup ∧
        (.skip ∈ given → given = [.skip]) ∧ (.flatten ∈ given → given = [.flatten]) ∧
          ¬(.readOnly ∈ given ∧ .writeOnly ∈ given)) ∧
    (∀ attrs given, ContainerOption.ofAttributes attrs = .ok given ↔
      Attribute.Hold (fun tokens => OptionList ContainerOption.Takes (.start tokens)) attrs given ∧
        (given.map ContainerOption.name).Nodup ∧ ¬ContainerOption.Contradict given) ∧
    (∀ attrs attrs' parts parts', Attribute.Hold (CommaList FieldOption.IsPart) attrs parts →
      Attribute.Hold (CommaList FieldOption.IsPart) attrs' parts' → parts.Perm parts' →
        Concur FieldOption.Same (FieldOption.ofAttributes attrs)
          (FieldOption.ofAttributes attrs')) ∧
    (∀ attrs attrs' parts parts', Attribute.Hold (CommaList ContainerOption.IsPart) attrs parts →
      Attribute.Hold (CommaList ContainerOption.IsPart) attrs' parts' → parts.Perm parts' →
        Concur ContainerOption.Same (ContainerOption.ofAttributes attrs)
          (ContainerOption.ofAttributes attrs')) := by
  refine ⟨fun attrs given => ?_, fun attrs given => ?_, ?_, ?_⟩
  · rw [FieldOption.ofAttributes_eq_ok_iff, OptionGrammar.lists_eq_of_form FieldOption.listed?_iff]
  · rw [ContainerOption.ofAttributes_eq_ok_iff]
    refine ⟨?_, ?_⟩
    · rintro ⟨lists, distinct, agree⟩
      exact ⟨(ContainerOption.lists_iff_of_distinct distinct).1 lists, distinct, agree⟩
    · rintro ⟨hold, distinct, agree⟩
      exact ⟨(ContainerOption.lists_iff_of_distinct distinct).2 hold, distinct, agree⟩
  · intro attrs attrs' parts parts' hold hold' perm
    refine .of_imp (fun given => FieldOption.ofAttributes_of_perm hold hold' perm) ?_
    intro given' accepted
    obtain ⟨given, accepted, _⟩ := FieldOption.ofAttributes_of_perm hold' hold perm.symm accepted
    exact ⟨given, accepted⟩
  · intro attrs attrs' parts parts' hold hold' perm
    refine .of_imp (fun given => ContainerOption.ofAttributes_of_perm hold hold' perm) ?_
    intro given' accepted
    obtain ⟨given, accepted, _⟩ :=
      ContainerOption.ofAttributes_of_perm hold' hold perm.symm accepted
    exact ⟨given, accepted⟩

/-- An attribute that holds options. -/
def rowAttribute (tokens : List Token) : Attribute := ⟨some "row", .arguments tokens⟩

/-- The text `rename = "Id"`. -/
def renameText : List Token :=
  [.ident "rename", .punct '=' false, .literal ⟨"\"Id\"", .string "Id"⟩]

/-- The text `Point::<f32, f64>::origin`. -/
def pathText : List Token :=
  [.ident "Point", .punct ':' true, .punct ':' true, .punct '<' false, .ident "f32",
    .punct ',' false, .ident "f64", .punct '>' true, .punct ':' true, .punct ':' false,
    .ident "origin"]

/-- The text `constructor = Point::<f32, f64>::origin`. -/
def constructorText : List Token := .ident "constructor" :: .punct '=' false :: pathText

/-- The text `rename_all = "camelCase"`. -/
def ruleText : List Token :=
  [.ident "rename_all", .punct '=' false, .literal ⟨"\"camelCase\"", .string "camelCase"⟩]

theorem options_regrouped :
    FieldOption.ofAttributes
        [rowAttribute (renameText ++ .punct ',' false :: [.ident "read_only"])] =
      .ok [.rename "Id", .readOnly] ∧
    Concur FieldOption.Same
      (FieldOption.ofAttributes
        [rowAttribute (renameText ++ .punct ',' false :: [.ident "read_only"])])
      (FieldOption.ofAttributes [rowAttribute [.ident "read_only"], ⟨some "doc", .value⟩,
        rowAttribute (renameText ++ .punct ',' false :: [])]) ∧
    ContainerOption.ofAttributes [rowAttribute (constructorText ++ .punct ',' false :: ruleText)] =
      .ok [.constructor pathText, .renameAll .camel] ∧
    Concur ContainerOption.Same
      (ContainerOption.ofAttributes
        [rowAttribute (constructorText ++ .punct ',' false :: ruleText)])
      (ContainerOption.ofAttributes [rowAttribute ruleText, rowAttribute constructorText]) := by
  have name : FieldOption.IsPart renameText renameText :=
    ⟨rfl, List.cons_ne_nil _ _, fun joint => by simp [renameText]⟩
  have access : FieldOption.IsPart [.ident "read_only"] [.ident "read_only"] :=
    ⟨rfl, List.cons_ne_nil _ _, fun joint => by simp⟩
  have path : ContainerOption.IsPart constructorText constructorText :=
    ⟨rfl, Or.inr (Or.inl ⟨_, _, .constructor rfl rfl, rfl, rfl⟩)⟩
  have rule : ContainerOption.IsPart ruleText ruleText :=
    ⟨rfl, Or.inl ⟨⟨List.cons_ne_nil _ _, fun joint => by simp [ruleText]⟩, by simp [ruleText]⟩⟩
  refine ⟨rfl, options_form_a_set.2.2.1 _ _ ([renameText, [.ident "read_only"]] ++ [])
    ([[.ident "read_only"]] ++ ([renameText] ++ [])) ?_ ?_ (List.Perm.swap _ _ _), rfl,
    options_form_a_set.2.2.2 _ _ ([constructorText, ruleText] ++ [])
      ([ruleText] ++ ([constructorText] ++ [])) ?_ ?_ (List.Perm.swap _ _ _)⟩
  · exact .row rfl rfl (.next name (.last access)) .nil
  · exact .row rfl rfl (.last access) (.foreign rfl (.row rfl rfl (.next name .nil) .nil))
  · exact .row rfl rfl (.next path (.last rule)) .nil
  · exact .row rfl rfl (.last rule) (.row rfl rfl (.last path) .nil)

end RecordBinding
