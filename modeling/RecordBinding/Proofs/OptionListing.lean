import RecordBinding.Declaration.RowOption

namespace RecordBinding

/-- The same reading, so many tokens further. -/
def Reading.after (r : Reading) (count : Nat) : Reading :=
  { r with input := r.input.drop count, copy := (r.input.take count).reverse ++ r.copy }

theorem Reading.after_one_input {r : Reading} {t : Token} {rest : List Token}
    (input : r.input = t :: rest) : (r.after 1).input = rest := by
  simp only [after, input, List.drop_succ_cons, List.drop_zero]

namespace Reader

variable {α β : Type}

theorem run_bind_of_ok {x : Reader α} {f : α → Reader β} {r s : Reading} {a : α}
    (read : x.run r = .ok (a, s)) : (x >>= f).run r = (f a).run s := by
  rw [StateT.run_bind, read]
  rfl

theorem run_bind_eq_ok_iff {x : Reader α} {f : α → Reader β} {r s : Reading} {b : β} :
    (x >>= f).run r = .ok (b, s) ↔ ∃ a between, x.run r = .ok (a, between) ∧
      (f a).run between = .ok (b, s) := by
  constructor
  · intro read
    rw [StateT.run_bind] at read
    cases first : x.run r with
    | ok result =>
      rw [first] at read
      exact ⟨result.1, result.2, rfl, read⟩
    | error p =>
      rw [first] at read
      cases read
  · rintro ⟨a, between, first, read⟩
    rw [run_bind_of_ok first, read]

theorem run_sees (test : List Token → Bool) (r : Reading) :
    (sees test).run r = .ok (test r.input, r) := rfl

theorem run_take (count : Nat) (r : Reading) : (take count).run r = .ok ((), r.after count) := rfl

theorem run_input (r : Reading) : Reader.input.run r = .ok (r.input, r) := rfl

theorem run_punct? (text : String) (r : Reading) : (punct? text).run r =
    .ok (isPunct text r.input, if isPunct text r.input then r.after text.length else r) := by
  have seen : (seesPunct text).run r = .ok (isPunct text r.input, r) := rfl
  rw [punct?, run_bind_of_ok seen]
  cases isPunct text r.input <;> rfl

theorem run_punct_eq_ok_iff {text : String} {r s : Reading} :
    (punct text).run r = .ok ((), s) ↔ isPunct text r.input = true ∧ s = r.after text.length := by
  have seen : (seesPunct text).run r = .ok (isPunct text r.input, r) := rfl
  rw [punct, run_bind_of_ok seen]
  cases isPunct text r.input with
  | false => exact iff_of_false nofun fun there => Bool.noConfusion there.1
  | true =>
    constructor
    · intro read
      cases read
      exact ⟨rfl, rfl⟩
    · rintro ⟨_, rfl⟩
      rfl

theorem run_anyIdent_eq_ok_iff {word : String} {r s : Reading} :
    anyIdent.run r = .ok (word, s) ↔ ∃ rest, r.input = .ident word :: rest ∧ s = r.after 1 := by
  rw [anyIdent, run_bind_of_ok (run_input r)]
  constructor
  · intro read
    split at read
    · rename_i text rest input
      cases read
      exact ⟨rest, input, rfl⟩
    · cases read
  · rintro ⟨rest, input, rfl⟩
    rw [input]
    rfl

/-- Further steps only add to what the first ones have yielded. -/
theorem run_iterateFor_cases {step : Reader (Option α)} {tokens : List Token} {xs ys : List α}
    {r s : Reading}
    (read : (iterateFor (fun xs => return (← step).map (· :: xs)) tokens xs).run r = .ok (ys, s)) :
    step.run r = .ok (none, s) ∧ ys = xs ∨ ys ≠ [] := by
  induction tokens generalizing xs r with
  | nil =>
    rw [iterateFor, bind_assoc] at read
    obtain ⟨x, between, once, ended⟩ := run_bind_eq_ok_iff.1 read
    cases ended
    cases x with
    | none => exact Or.inl ⟨once, rfl⟩
    | some x => exact Or.inr (List.cons_ne_nil x xs)
  | cons token tokens ih =>
    rw [iterateFor, bind_assoc] at read
    obtain ⟨x, between, once, later⟩ := run_bind_eq_ok_iff.1 read
    cases x with
    | none =>
      cases later
      exact Or.inl ⟨once, rfl⟩
    | some x =>
      rcases ih later with ⟨_, rfl⟩ | nonempty
      · exact Or.inr (List.cons_ne_nil x xs)
      · exact Or.inr nonempty

theorem run_many_eq_nil_iff {step : Reader (Option α)} {r s : Reading} :
    (many step).run r = .ok ([], s) ↔ step.run r = .ok (none, s) := by
  rw [many, iterate, bind_assoc, run_bind_of_ok (run_input r)]
  constructor
  · intro read
    obtain ⟨ys, between, read, reversed⟩ := run_bind_eq_ok_iff.1 read
    have empty : ys = [] := List.reverse_eq_nil_iff.1 (congrArg Prod.fst (Except.ok.inj reversed))
    have same : between = s := congrArg Prod.snd (Except.ok.inj reversed)
    rcases run_iterateFor_cases read with ⟨ended, _⟩ | nonempty
    · exact same ▸ ended
    · exact absurd empty nonempty
  · intro ended
    have once : ∀ tokens : List Token,
        (iterateFor (fun xs => return (← step).map (· :: xs)) tokens ([] : List α)).run r =
          .ok ([], s) := by
      intro tokens
      cases tokens with
      | nil =>
        rw [iterateFor, bind_assoc, run_bind_of_ok ended]
        rfl
      | cons token tokens =>
        rw [iterateFor, bind_assoc, run_bind_of_ok ended]
        rfl
    rw [run_bind_of_ok (once r.input)]
    rfl

theorem startsWith_singleton_iff {c : Char} {tokens : List Token} :
    startsWith [c] tokens = true ↔ ∃ joint rest, tokens = .punct c joint :: rest := by
  constructor
  · intro starts
    match tokens with
    | .punct d joint :: rest =>
      have same : c = d := beq_iff_eq.1 starts
      exact ⟨joint, rest, by rw [same]⟩
  · rintro ⟨joint, rest, rfl⟩
    exact beq_self_eq_true c

theorem isPunct_comma_iff {tokens : List Token} :
    isPunct "," tokens = true ↔ ∃ joint rest, tokens = .punct ',' joint :: rest :=
  startsWith_singleton_iff

end Reader

namespace OptionGrammar

open Reader

/-- One more name of a path, if there is one. -/
def pathStep : Reader (Option String) := do
  if ← punct? "::" then return some (← anyIdent) else return none

theorem run_pathStep_eq_none_iff {r s : Reading} :
    pathStep.run r = .ok (none, s) ↔ isPunct "::" r.input = false ∧ s = r := by
  rw [pathStep, run_bind_of_ok (run_punct? "::" r)]
  cases isPunct "::" r.input with
  | false =>
    constructor
    · intro read
      cases read
      exact ⟨rfl, rfl⟩
    · rintro ⟨_, rfl⟩
      rfl
  | true =>
    refine iff_of_false (fun read => ?_) fun alone => Bool.noConfusion alone.1
    obtain ⟨word, _, _, found⟩ := run_bind_eq_ok_iff.1 read
    cases found

/-- A path from its first word on. -/
def pathFrom (leading : Bool) : Reader (Option String) := do
  let first ← anyIdent
  let further ← many pathStep
  return if !leading && further.isEmpty then some first else none

theorem run_pathFrom_eq_some_iff {leading : Bool} {word : String} {r s : Reading} :
    (pathFrom leading).run r = .ok (some word, s) ↔ leading = false ∧
      ∃ rest, r.input = .ident word :: rest ∧ isPunct "::" rest = false ∧ s = r.after 1 := by
  rw [pathFrom]
  constructor
  · intro read
    obtain ⟨first, between, begins, read⟩ := run_bind_eq_ok_iff.1 read
    obtain ⟨further, last, more, ended⟩ := run_bind_eq_ok_iff.1 read
    obtain ⟨rest, input, rfl⟩ := run_anyIdent_eq_ok_iff.1 begins
    cases leading with
    | true => cases ended
    | false =>
      cases further with
      | cons word further => cases ended
      | nil =>
        cases ended
        obtain ⟨alone, rfl⟩ := run_pathStep_eq_none_iff.1 (run_many_eq_nil_iff.1 more)
        rw [Reading.after_one_input input] at alone
        exact ⟨rfl, rest, input, alone, rfl⟩
  · rintro ⟨rfl, rest, input, alone, rfl⟩
    rw [← Reading.after_one_input input] at alone
    rw [run_bind_of_ok (run_anyIdent_eq_ok_iff.2 ⟨rest, input, rfl⟩),
      run_bind_of_ok (run_many_eq_nil_iff.2 (run_pathStep_eq_none_iff.2 ⟨alone, rfl⟩))]
    rfl

/-- The refusal of what cannot begin a path. -/
def noPath : Reader (Option String) := do
  if ← atEnd then expected ["nested attribute"]
  else if ← sees isLiteral then throw .optionIsLiteral
  else throw .optionIsNoName

theorem run_noPath_ne_ok (r : Reading) (result : Option String × Reading) :
    noPath.run r ≠ .ok result := by
  have ended : atEnd.run r = .ok (r.input.isEmpty, r) := rfl
  rw [noPath, run_bind_of_ok ended]
  cases r.input.isEmpty with
  | true => exact nofun
  | false =>
    rw [if_neg Bool.false_ne_true, run_bind_of_ok (run_sees isLiteral r)]
    cases isLiteral r.input <;> exact nofun

theorem optionPath_eq : optionPath = (do
    let leading ← punct? "::"
    if ← sees isAnyIdent then pathFrom leading else noPath) := rfl

/-- A path names an option only if it is a single word with nothing in front. -/
theorem run_optionPath_eq_some_iff {word : String} {r s : Reading} :
    optionPath.run r = .ok (some word, s) ↔
      ∃ rest, r.input = .ident word :: rest ∧ isPunct "::" rest = false ∧ s = r.after 1 := by
  rw [optionPath_eq, run_bind_of_ok (run_punct? "::" r), run_bind_of_ok (run_sees isAnyIdent _)]
  constructor
  · intro read
    cases leading : isPunct "::" r.input with
    | true =>
      simp only [leading, if_true] at read
      split at read
      · exact Bool.noConfusion (run_pathFrom_eq_some_iff.1 read).1
      · exact absurd read (run_noPath_ne_ok _ _)
    | false =>
      simp only [leading, Bool.false_eq_true, if_false] at read
      split at read
      · exact (run_pathFrom_eq_some_iff.1 read).2
      · exact absurd read (run_noPath_ne_ok _ _)
  · rintro ⟨rest, input, alone, rfl⟩
    have leading : isPunct "::" r.input = false := by
      rw [input]
      rfl
    have begins : isAnyIdent r.input = true := by
      rw [input]
      rfl
    simp only [leading, Bool.false_eq_true, if_false, begins, if_true]
    exact run_pathFrom_eq_some_iff.2 ⟨rfl, rest, input, alone, rfl⟩

variable {α : Type} (g : OptionGrammar α)

/-- One option: its name, and what follows the name. -/
def option : Reader α := do
  match (← optionPath).bind g.reader? with
  | none => throw (.unknownOption g.place)
  | some reader => reader

variable {g}

theorem run_option_eq_ok_iff {o : α} {r s : Reading} :
    g.option.run r = .ok (o, s) ↔ ∃ word rest reader, r.input = .ident word :: rest ∧
      isPunct "::" rest = false ∧ g.reader? word = some reader ∧
        reader.run (r.after 1) = .ok (o, s) := by
  rw [option, run_bind_eq_ok_iff]
  constructor
  · rintro ⟨path, between, named, read⟩
    cases path with
    | none => cases read
    | some word =>
      obtain ⟨rest, input, alone, rfl⟩ := run_optionPath_eq_some_iff.1 named
      cases known : g.reader? word with
      | none =>
        rw [Option.bind_some, known] at read
        cases read
      | some reader =>
        rw [Option.bind_some, known] at read
        exact ⟨word, rest, reader, input, alone, known, read⟩
  · rintro ⟨word, rest, reader, input, alone, known, read⟩
    refine ⟨some word, r.after 1, run_optionPath_eq_some_iff.2 ⟨rest, input, alone, rfl⟩, ?_⟩
    rw [Option.bind_some, known]
    exact read

end OptionGrammar

/-- The rest of a text is a list of options, each of which takes some of it. Commas stand
between them and perhaps after the last, and no group is left with something unread. -/
inductive OptionList {α : Type} (takes : α → Reading → Reading → Prop) :
    Reading → List α → Prop
  | ended {r} (input : r.input = []) (closed : r.unread = none) : OptionList takes r []
  | last {r s o} (taken : takes o r s) (input : s.input = []) (closed : s.unread = none) :
      OptionList takes r [o]
  | next {r s o os} (taken : takes o r s) (comma : Reader.isPunct "," s.input = true)
      (later : OptionList takes (s.after 1) os) : OptionList takes r (o :: os)

theorem OptionList.imp {α : Type} {takes other : α → Reading → Reading → Prop}
    (weaker : ∀ o r s, takes o r s → other o r s) {r : Reading} {os : List α}
    (listed : OptionList takes r os) : OptionList other r os := by
  induction listed with
  | ended input closed => exact .ended input closed
  | last taken input closed => exact .last (weaker _ _ _ taken) input closed
  | next taken comma _ ih => exact .next (weaker _ _ _ taken) comma ih

/-- The options that a text lists, if nothing in it is at fault. -/
def OptionText.options? {α : Type} : OptionText α → Option (List α)
  | .done => some []
  | .fault _ => none
  | .faultAfter _ _ => none
  | .option o rest => rest.options?.map (o :: ·)

namespace OptionGrammar

open Reader

variable {α : Type} {g : OptionGrammar α}

theorem options?_atLast {r : Reading} {os : List α} :
    (atLast (α := α) r).options? = some os ↔ r.unread = none ∧ os = [] := by
  rw [atLast]
  cases r.unread with
  | none => exact ⟨fun ended => ⟨rfl, (Option.some.inj ended).symm⟩, fun ended => ended.2 ▸ rfl⟩
  | some delimiter => exact iff_of_false nofun fun ended => nomatch ended.1

theorem options?_text_of_ended {bound : Nat} {r : Reading} {os : List α} (ended : r.input = []) :
    (g.text (bound + 1) r).options? = some os ↔ r.unread = none ∧ os = [] := by
  rw [text, if_pos (List.isEmpty_iff.2 ended), options?_atLast]

theorem options?_text_of_refused {bound : Nat} {r : Reading} (begun : r.input ≠ [])
    (refused : ∀ o s, g.option.run r ≠ .ok (o, s)) : (g.text (bound + 1) r).options? = none := by
  rw [text, if_neg (mt List.isEmpty_iff.1 begun)]
  split
  · rfl
  · rename_i path between named
    split
    · rfl
    · rename_i word reader known
      obtain ⟨word', rfl, known⟩ := Option.bind_eq_some_iff.1 known
      obtain ⟨reader', known, same⟩ := Option.map_eq_some_iff.1 known
      cases same
      split
      · rfl
      · rename_i o s read
        refine absurd ?_ (refused o s)
        rw [option, run_bind_of_ok named, Option.bind_some, known]
        exact read

theorem text_of_option {bound : Nat} {r s : Reading} {o : α} (read : g.option.run r = .ok (o, s)) :
    g.text (bound + 1) r = .option o
      (if s.input.isEmpty then atLast s
      else
        match (punct ",").run s with
        | .error p => .fault p
        | .ok (_, s) => g.text bound s) := by
  obtain ⟨word, rest, reader, input, alone, known, read⟩ := run_option_eq_ok_iff.1 read
  have named := run_optionPath_eq_some_iff.2 ⟨rest, input, alone, rfl⟩
  have begun : ¬r.input.isEmpty := by
    rw [input]
    exact Bool.false_ne_true
  rw [text, if_neg begun, named]
  simp only [Option.bind_some, known, Option.map_some, read]
  split
  · rfl
  · cases (punct ",").run s <;> rfl

/-- After an option either the text ends, or a comma and further options stand. -/
theorem options?_text_of_option {bound : Nat} {r s : Reading} {o : α} {os : List α}
    (read : g.option.run r = .ok (o, s)) :
    (g.text (bound + 1) r).options? = some os ↔ ∃ later, os = o :: later ∧
      (s.input = [] ∧ s.unread = none ∧ later = [] ∨
        isPunct "," s.input = true ∧ (g.text bound (s.after 1)).options? = some later) := by
  rw [text_of_option read]
  constructor
  · intro listed
    obtain ⟨later, listed, same⟩ := Option.map_eq_some_iff.1 listed
    refine ⟨later, same.symm, ?_⟩
    split at listed
    · rename_i last
      exact Or.inl ⟨List.isEmpty_iff.1 last, options?_atLast.1 listed⟩
    · split at listed
      · cases listed
      · rename_i next comma
        obtain ⟨there, same⟩ := run_punct_eq_ok_iff.1 comma
        cases same
        exact Or.inr ⟨there, listed⟩
  · rintro ⟨later, rfl, separated⟩
    refine Option.map_eq_some_iff.2 ⟨later, ?_, rfl⟩
    rcases separated with ⟨last, closed, rfl⟩ | ⟨comma, listed⟩
    · rw [if_pos (List.isEmpty_iff.2 last)]
      exact options?_atLast.2 ⟨closed, rfl⟩
    · have more : ¬s.input.isEmpty := by
        obtain ⟨joint, rest, input⟩ := isPunct_comma_iff.1 comma
        rw [input]
        exact Bool.false_ne_true
      rw [if_neg more, run_punct_eq_ok_iff.2 ⟨comma, rfl⟩]
      exact listed

variable (g) in
/-- An option stands first in a text, with the rest of the text after it. -/
def Takes (o : α) (r s : Reading) : Prop := g.option.run r = .ok (o, s)

theorem optionList_of_text {bound : Nat} {r : Reading} {os : List α}
    (listed : (g.text bound r).options? = some os) : OptionList g.Takes r os := by
  induction bound generalizing r os with
  | zero => cases listed
  | succ bound ih =>
    by_cases ended : r.input = []
    · obtain ⟨closed, rfl⟩ := (options?_text_of_ended ended).1 listed
      exact .ended ended closed
    · cases read : g.option.run r with
      | error p =>
        have refused : ∀ o s, g.option.run r ≠ .ok (o, s) := by
          rw [read]
          exact nofun
        cases (options?_text_of_refused ended refused).symm.trans listed
      | ok taken =>
        obtain ⟨later, rfl, separated⟩ := (options?_text_of_option read).1 listed
        rcases separated with ⟨input, closed, rfl⟩ | ⟨comma, listed⟩
        · exact .last read input closed
        · exact .next read comma (ih listed)

theorem options?_of_optionList {r : Reading} {os : List α} (listed : OptionList g.Takes r os)
    {bound : Nat} (enough : os.length < bound) : (g.text bound r).options? = some os := by
  induction listed generalizing bound with
  | ended input closed =>
    obtain ⟨bound, rfl⟩ := Nat.exists_eq_add_one_of_ne_zero (Nat.ne_zero_of_lt enough)
    exact (options?_text_of_ended input).2 ⟨closed, rfl⟩
  | last read input closed =>
    obtain ⟨bound, rfl⟩ := Nat.exists_eq_add_one_of_ne_zero (Nat.ne_zero_of_lt enough)
    exact (options?_text_of_option read).2 ⟨[], rfl, Or.inl ⟨input, closed, rfl⟩⟩
  | next read comma later ih =>
    obtain ⟨bound, rfl⟩ := Nat.exists_eq_add_one_of_ne_zero (Nat.ne_zero_of_lt enough)
    have listed := ih (Nat.lt_of_succ_lt_succ enough)
    exact (options?_text_of_option read).2 ⟨_, rfl, Or.inr ⟨comma, listed⟩⟩

variable (g) in
/-- The options that the arguments of an attribute list, if they list nothing else. -/
def listed? (tokens : List Token) : Option (List α) :=
  (g.text (readingDepth tokens) (.start tokens)).options?

end OptionGrammar

theorem Token.length_le_totalSize (tokens : List Token) : tokens.length ≤ totalSize tokens := by
  induction tokens with
  | nil => exact Nat.le_refl _
  | cons t rest ih =>
    have positive : 1 ≤ t.size := by cases t <;> simp [size]
    rw [List.length_cons, totalSize]
    omega

/-- What may stand after a part of a text. -/
def Separated (rest : List Token) : Prop := rest = [] ∨ Reader.isPunct "," rest = true

/-- Tokens that are parts with commas between them, and perhaps one more comma after the
last. Each part is of the form that an item of the list asks for. -/
inductive CommaList {β : Type} (form : β → List Token → Prop) : List Token → List β → Prop
  | nil : CommaList form [] []
  | last {x part} (written : form x part) : CommaList form part [x]
  | next {x part joint tokens xs} (written : form x part) (later : CommaList form tokens xs) :
      CommaList form (part ++ .punct ',' joint :: tokens) (x :: xs)

theorem CommaList.map {β γ : Type} {form : β → List Token → Prop} {other : γ → List Token → Prop}
    (f : β → γ) (written : ∀ x part, form x part → other (f x) part) {tokens : List Token}
    {xs : List β} (listed : CommaList form tokens xs) : CommaList other tokens (xs.map f) := by
  induction listed with
  | nil => exact .nil
  | last form => exact .last (written _ _ form)
  | next form _ ih => exact .next (written _ _ form) ih

namespace OptionGrammar

open Reader

variable {α : Type} (g : OptionGrammar α)

/-- Some tokens write an option: it is read from them, and from no others, wherever the
list of options has them. -/
def Writes (o : α) (part : List Token) : Prop :=
  ∀ (r : Reading) (rest : List Token), r.input = part ++ rest → r.unread = none →
    Separated rest → ∃ s, g.option.run r = .ok (o, s) ∧ s.input = rest ∧ s.unread = none

/-- No list of options has the tokens in it. -/
def Spoils (part : List Token) : Prop :=
  ∀ (bound : Nat) (r : Reading) (rest : List Token), r.input = part ++ rest → r.unread = none →
    Separated rest → (g.text bound r).options? = none

/-- Some tokens are the text of an option, or of what is none. -/
def Means : Option α → List Token → Prop
  | some o => g.Writes o
  | none => g.Spoils

variable {g}

/-- The text of a list is read part by part, so it lists options if and only if each part
writes one. -/
theorem options?_of_means {tokens : List Token} {meanings : List (Option α)}
    (parts : CommaList g.Means tokens meanings) {bound : Nat} {r : Reading} {os : List α}
    (input : r.input = tokens) (closed : r.unread = none) (enough : tokens.length < bound) :
    (g.text bound r).options? = some os ↔ meanings = os.map some := by
  induction parts generalizing bound r os with
  | nil =>
    obtain ⟨bound, rfl⟩ := Nat.exists_eq_add_one_of_ne_zero (Nat.ne_zero_of_lt enough)
    rw [options?_text_of_ended input, and_iff_right closed, eq_comm (a := []), List.map_eq_nil_iff]
  | @last meaning part written =>
    have alone : r.input = part ++ [] := by rw [input, List.append_nil]
    cases meaning with
    | none =>
      rw [written bound r [] alone closed (Or.inl rfl)]
      refine iff_of_false nofun fun same => ?_
      cases os <;> cases same
    | some o =>
      obtain ⟨s, read, last, closed⟩ := written r [] alone closed (Or.inl rfl)
      obtain ⟨bound, rfl⟩ := Nat.exists_eq_add_one_of_ne_zero (Nat.ne_zero_of_lt enough)
      rw [options?_text_of_option read]
      constructor
      · rintro ⟨later, rfl, ⟨_, _, rfl⟩ | ⟨comma, _⟩⟩
        · rfl
        · rw [last] at comma
          cases comma
      · intro same
        obtain ⟨x, xs, rfl, same, none⟩ := List.map_eq_cons_iff.1 same.symm
        cases same
        exact ⟨xs, rfl, Or.inl ⟨last, closed, List.map_eq_nil_iff.1 none⟩⟩
  | @next meaning part joint tokens meanings written later ih =>
    cases meaning with
    | none =>
      rw [written bound r _ input closed (Or.inr rfl)]
      refine iff_of_false nofun fun same => ?_
      cases os <;> cases same
    | some o =>
      obtain ⟨s, read, remains, closed⟩ := written r _ input closed (Or.inr rfl)
      obtain ⟨bound, rfl⟩ := Nat.exists_eq_add_one_of_ne_zero (Nat.ne_zero_of_lt enough)
      have fewer : tokens.length < bound := by
        simp only [List.length_append, List.length_cons] at enough
        omega
      rw [options?_text_of_option read]
      constructor
      · rintro ⟨more, rfl, ⟨last, _⟩ | ⟨_, listed⟩⟩
        · cases remains.symm.trans last
        · rw [(ih (Reading.after_one_input remains) closed fewer).1 listed, List.map_cons]
      · intro same
        obtain ⟨x, xs, rfl, same, meanings⟩ := List.map_eq_cons_iff.1 same.symm
        cases same
        have listed := (ih (Reading.after_one_input remains) closed fewer).2 meanings.symm
        refine ⟨xs, rfl, Or.inr ⟨?_, listed⟩⟩
        rw [remains]
        rfl

theorem listed?_of_means {tokens : List Token} {meanings : List (Option α)} {os : List α}
    (parts : CommaList g.Means tokens meanings) :
    g.listed? tokens = some os ↔ meanings = os.map some := by
  have enough : tokens.length < readingDepth tokens := by
    have bounded := Token.length_le_totalSize tokens
    rw [readingDepth]
    omega
  exact options?_of_means parts rfl rfl enough

/-- If each option that can be read is read from tokens of a certain form, the tokens of a list
are made of parts of that form. -/
theorem commaList_of_optionList {form : α → List Token → Prop}
    (formed : ∀ {r s o}, g.option.run r = .ok (o, s) →
      ∃ part, r.input = part ++ s.input ∧ form o part)
    {r : Reading} {os : List α} (listed : OptionList g.Takes r os) : CommaList form r.input os := by
  induction listed with
  | ended input closed =>
    rw [input]
    exact .nil
  | last read ended closed =>
    obtain ⟨part, input, written⟩ := formed read
    rw [input, ended, List.append_nil]
    exact .last written
  | next read comma _ ih =>
    obtain ⟨part, input, written⟩ := formed read
    obtain ⟨joint, rest, more⟩ := isPunct_comma_iff.1 comma
    rw [Reading.after_one_input more] at ih
    rw [input, more]
    exact .next written ih

/-- Where options and their forms determine each other, so do lists of them. -/
theorem listed?_eq_some_iff {form : α → List Token → Prop}
    (formed : ∀ {r s o}, g.option.run r = .ok (o, s) →
      ∃ part, r.input = part ++ s.input ∧ form o part)
    (written : ∀ o part, form o part → g.Writes o part) {tokens : List Token} {os : List α} :
    g.listed? tokens = some os ↔ CommaList form tokens os := by
  constructor
  · intro listed
    exact commaList_of_optionList formed (optionList_of_text listed)
  · intro parts
    have meant : CommaList g.Means tokens (os.map some) := parts.map some written
    exact (listed?_of_means meant).2 rfl

end OptionGrammar

end RecordBinding
