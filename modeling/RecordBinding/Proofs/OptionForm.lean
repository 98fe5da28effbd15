import RecordBinding.Declaration.FieldOption
import RecordBinding.Proofs.OptionListing

namespace RecordBinding

namespace Reader

variable {α β : Type}

theorem run_map_eq_ok_iff {f : α → β} {x : Reader α} {r s : Reading} {b : β} :
    (f <$> x).run r = .ok (b, s) ↔ ∃ a, x.run r = .ok (a, s) ∧ f a = b := by
  rw [map_eq_pure_bind, run_bind_eq_ok_iff]
  constructor
  · rintro ⟨a, between, read, mapped⟩
    cases mapped
    exact ⟨a, read, rfl⟩
  · rintro ⟨a, read, rfl⟩
    exact ⟨a, s, read, rfl⟩

theorem run_equals_eq_ok_iff {r s : Reading} : (punct "=").run r = .ok ((), s) ↔
    ∃ joint rest, r.input = .punct '=' joint :: rest ∧ s = r.after 1 := by
  have equals : isPunct "=" r.input = true ↔ ∃ joint rest, r.input = .punct '=' joint :: rest :=
    startsWith_singleton_iff
  rw [run_punct_eq_ok_iff, equals]
  constructor
  · rintro ⟨⟨joint, rest, input⟩, rfl⟩
    exact ⟨joint, rest, input, rfl⟩
  · rintro ⟨joint, rest, input, rfl⟩
    exact ⟨⟨joint, rest, input⟩, rfl⟩

end Reader

open Reader

theorem run_stringValue_eq_ok_iff {value : String} {r s : Reading} :
    stringValue.run r = .ok (value, s) ↔ ∃ joint text rest,
      r.input = .punct '=' joint :: .literal ⟨text, .string value⟩ :: rest ∧
        s = (r.after 1).after 1 := by
  rw [stringValue]
  constructor
  · intro read
    obtain ⟨_, between, equals, read⟩ := run_bind_eq_ok_iff.1 read
    obtain ⟨joint, rest, input, rfl⟩ := run_equals_eq_ok_iff.1 equals
    rw [run_bind_of_ok (run_input _), Reading.after_one_input input] at read
    split at read
    · cases read
      exact ⟨joint, _, _, input, rfl⟩
    · cases read
  · rintro ⟨joint, text, rest, input, rfl⟩
    rw [run_bind_of_ok (run_equals_eq_ok_iff.2 ⟨joint, _, input, rfl⟩),
      run_bind_of_ok (run_input _), Reading.after_one_input input]
    rfl

namespace OptionGrammar

variable {α : Type} {g : OptionGrammar α}

/-- What may follow an option does not make its name longer. -/
theorem isPunct_path_of_separated {rest : List Token}
    (separated : Separated rest) : isPunct "::" rest = false := by
  rcases separated with rfl | comma
  · rfl
  · obtain ⟨joint, more, rfl⟩ := isPunct_comma_iff.1 comma
    rfl

/-- A word that is an option by itself is read as that option. -/
theorem writes_word {word : String} {o : α} (known : g.reader? word = some (pure o)) :
    g.Writes o [.ident word] := by
  intro r rest input closed separated
  refine ⟨r.after 1, ?_, Reading.after_one_input input, closed⟩
  exact run_option_eq_ok_iff.2
    ⟨word, rest, pure o, input, isPunct_path_of_separated separated, known, rfl⟩

/-- An option whose value is an equals sign and text is read from its name, the sign and a
literal. -/
theorem writes_string {word value : String} {o : α} {reader : Reader α}
    (known : g.reader? word = some reader)
    (taken : ∀ {r s}, stringValue.run r = .ok (value, s) → reader.run r = .ok (o, s))
    (joint : Bool) (text : String) :
    g.Writes o [.ident word, .punct '=' joint, .literal ⟨text, .string value⟩] := by
  intro r rest input closed separated
  have equals := Reading.after_one_input input
  have literal := Reading.after_one_input equals
  refine ⟨((r.after 1).after 1).after 1, ?_, Reading.after_one_input literal, closed⟩
  refine run_option_eq_ok_iff.2 ⟨word, _, reader, input, ?_, known, taken ?_⟩
  · rfl
  · exact run_stringValue_eq_ok_iff.2 ⟨joint, text, rest, equals, rfl⟩

/-- Nothing is read for a word that is an option by itself but the word. -/
theorem input_of_run_word {word : String} {o taken : α} {r s : Reading} {rest : List Token}
    (input : r.input = .ident word :: rest)
    (read : (pure o : Reader α).run (r.after 1) = .ok (taken, s)) :
    o = taken ∧ r.input = [.ident word] ++ s.input := by
  cases read
  rw [Reading.after_one_input input]
  exact ⟨rfl, input⟩

/-- What is read for text after a word is an equals sign and a literal. -/
theorem input_of_run_string {word : String} {f : String → α} {taken : α} {r s : Reading}
    {rest : List Token} (input : r.input = .ident word :: rest)
    (read : (f <$> stringValue).run (r.after 1) = .ok (taken, s)) :
    ∃ value joint text, f value = taken ∧
      r.input = [.ident word, .punct '=' joint, .literal ⟨text, .string value⟩] ++ s.input := by
  obtain ⟨value, read, same⟩ := run_map_eq_ok_iff.1 read
  obtain ⟨joint, text, last, after, rfl⟩ := run_stringValue_eq_ok_iff.1 read
  rw [Reading.after_one_input input] at after
  subst after
  have equals := Reading.after_one_input input
  rw [Reading.after_one_input (Reading.after_one_input equals)]
  exact ⟨value, joint, text, same, input⟩

end OptionGrammar

namespace FieldOption

/-- How an option of a field is written. -/
def Form : FieldOption → List Token → Prop
  | rename name, part => ∃ joint text,
    part = [.ident "rename", .punct '=' joint, .literal ⟨text, .string name⟩]
  | o, part => part = [.ident o.name]

theorem form_of_run_option {r s : Reading} {o : FieldOption}
    (read : grammar.option.run r = .ok (o, s)) :
    ∃ part, r.input = part ++ s.input ∧ Form o part := by
  obtain ⟨word, rest, reader, input, _, known, read⟩ := OptionGrammar.run_option_eq_ok_iff.1 read
  change reader? word = some reader at known
  unfold reader? at known
  split at known
  case h_1 =>
    cases known
    obtain ⟨name, joint, text, rfl, input⟩ := OptionGrammar.input_of_run_string input read
    exact ⟨_, input, joint, text, rfl⟩
  case h_7 => cases known
  -- every other option is a word by itself
  all_goals
    cases known
    obtain ⟨rfl, input⟩ := OptionGrammar.input_of_run_word input read
    exact ⟨_, input, rfl⟩

theorem writes_of_form (o : FieldOption) (part : List Token) (form : Form o part) :
    grammar.Writes o part := by
  cases o with
  | rename name =>
    obtain ⟨joint, text, rfl⟩ := form
    refine OptionGrammar.writes_string rfl ?_ joint text
    intro r s value
    exact run_map_eq_ok_iff.2 ⟨name, value, rfl⟩
  | _ =>
    cases form
    exact OptionGrammar.writes_word rfl

theorem listed?_iff {tokens : List Token} {os : List FieldOption} :
    grammar.listed? tokens = some os ↔ CommaList Form tokens os :=
  OptionGrammar.listed?_eq_some_iff form_of_run_option writes_of_form

end FieldOption

namespace ContainerOption

/-- How an option of a type stands first in a text: a rule after its spelling, a path as paths
are read, or a word that says that there is no constructor. -/
inductive Takes : ContainerOption → Reading → Reading → Prop
  | renameAll {r rule joint text rest}
      (input : r.input = .ident "rename_all" :: .punct '=' joint ::
        .literal ⟨text, .string rule.spelling⟩ :: rest) :
      Takes (.renameAll rule) r (((r.after 1).after 1).after 1)
  | constructor {r s joint rest p}
      (input : r.input = .ident "constructor" :: .punct '=' joint :: rest)
      (read : (Reader.path .forAnyText false).run ((r.after 1).after 1) = .ok (p, s)) :
      Takes (.constructor p.tokens) r s
  | noConstructor {r rest} (input : r.input = .ident "no_constructor" :: rest)
      (alone : isPunct "::" rest = false) : Takes .noConstructor r (r.after 1)

theorem spelling_of_ofSpelling? {text : String} {rule : RenameRule}
    (spelled : RenameRule.ofSpelling? text = some rule) : rule.spelling = text := by
  have found := List.find?_some spelled
  exact beq_iff_eq.1 found

theorem run_ruleValue_eq_ok_iff {rule : RenameRule} {r s : Reading} :
    ruleValue.run r = .ok (rule, s) ↔ stringValue.run r = .ok (rule.spelling, s) := by
  rw [ruleValue, run_bind_eq_ok_iff]
  constructor
  · rintro ⟨text, between, value, known⟩
    split at known
    · rename_i found spelled
      cases known
      have same : rule.spelling = text := spelling_of_ofSpelling? spelled
      rw [same]
      exact value
    · cases known
  · intro value
    refine ⟨rule.spelling, s, value, ?_⟩
    rw [RenameRule.ofSpelling?_spelling]
    rfl

theorem run_constructorValue_eq_ok_iff {path : List Token} {r s : Reading} :
    constructorValue.run r = .ok (path, s) ↔ ∃ joint rest p, r.input = .punct '=' joint :: rest ∧
      (Reader.path .forAnyText false).run (r.after 1) = .ok (p, s) ∧ p.tokens = path := by
  rw [constructorValue]
  constructor
  · intro read
    obtain ⟨_, between, equals, read⟩ := run_bind_eq_ok_iff.1 read
    obtain ⟨joint, rest, input, rfl⟩ := run_equals_eq_ok_iff.1 equals
    obtain ⟨p, last, read, same⟩ := run_bind_eq_ok_iff.1 read
    cases same
    exact ⟨joint, rest, p, input, read, rfl⟩
  · rintro ⟨joint, rest, p, input, read, rfl⟩
    rw [run_bind_of_ok (run_equals_eq_ok_iff.2 ⟨joint, rest, input, rfl⟩), run_bind_of_ok read]
    rfl

theorem takes_iff {o : ContainerOption} {r s : Reading} : grammar.Takes o r s ↔ Takes o r s := by
  refine Iff.trans OptionGrammar.run_option_eq_ok_iff ⟨?_, ?_⟩
  · rintro ⟨word, rest, reader, input, alone, known, read⟩
    change reader? word = some reader at known
    unfold reader? at known
    split at known
    · cases known
      obtain ⟨rule, value, rfl⟩ := run_map_eq_ok_iff.1 read
      obtain ⟨joint, text, last, after, rfl⟩ :=
        run_stringValue_eq_ok_iff.1 (run_ruleValue_eq_ok_iff.1 value)
      rw [Reading.after_one_input input] at after
      subst after
      exact .renameAll input
    · cases known
      obtain ⟨path, value, rfl⟩ := run_map_eq_ok_iff.1 read
      obtain ⟨joint, last, p, after, pathRead, rfl⟩ := run_constructorValue_eq_ok_iff.1 value
      rw [Reading.after_one_input input] at after
      subst after
      exact .constructor input pathRead
    · cases known
      cases read
      exact .noConstructor input alone
    · cases known
  · intro takes
    cases takes with
    | @renameAll r rule joint text rest input =>
      have value := run_stringValue_eq_ok_iff.2
        ⟨joint, text, rest, Reading.after_one_input input, rfl⟩
      exact ⟨_, _, renameAll <$> ruleValue, input, rfl, rfl,
        run_map_eq_ok_iff.2 ⟨rule, run_ruleValue_eq_ok_iff.2 value, rfl⟩⟩
    | @constructor r s joint rest p input read =>
      have value := run_constructorValue_eq_ok_iff.2
        ⟨joint, rest, p, Reading.after_one_input input, read, rfl⟩
      exact ⟨_, _, constructor <$> constructorValue, input, rfl, rfl,
        run_map_eq_ok_iff.2 ⟨p.tokens, value, rfl⟩⟩
    | @noConstructor r rest input alone =>
      exact ⟨_, _, pure noConstructor, input, alone, rfl, rfl⟩

end ContainerOption

namespace VariantOption

/-- How an option of a variant is written. -/
def Form (o : VariantOption) (part : List Token) : Prop := part = [.ident o.name]

theorem form_of_run_option {r s : Reading} {o : VariantOption}
    (read : grammar.option.run r = .ok (o, s)) :
    ∃ part, r.input = part ++ s.input ∧ Form o part := by
  obtain ⟨word, rest, reader, input, _, known, read⟩ := OptionGrammar.run_option_eq_ok_iff.1 read
  change reader? word = some reader at known
  unfold reader? at known
  split at known
  · cases known
    obtain ⟨rfl, input⟩ := OptionGrammar.input_of_run_word input read
    exact ⟨_, input, rfl⟩
  · cases known

theorem listed?_iff {tokens : List Token} {os : List VariantOption} :
    grammar.listed? tokens = some os ↔ CommaList Form tokens os := by
  refine OptionGrammar.listed?_eq_some_iff form_of_run_option ?_
  rintro o part rfl
  exact OptionGrammar.writes_word rfl

end VariantOption

end RecordBinding
