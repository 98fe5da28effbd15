import RecordBinding.Declaration.StructMapping
import RecordBinding.Proofs.Reported

namespace RecordBinding

namespace DeclaredField

/-- What is wrong with the options of a field. -/
def problems (f : DeclaredField) : List Problem :=
  match FieldOption.ofAttributes f.attributes with
  | .ok _ => []
  | .error found => found

/-- The name that a field is bound under. There is none if its options are refused, if it is
left out, or if it is bound through the fields of its type. -/
def ownName? (rule : Option RenameRule) (f : DeclaredField) : Option String :=
  match FieldOption.ofAttributes f.attributes with
  | .ok given =>
    if given.contains .skip || given.contains .flatten then none
    else some (MappedField.boundName f.ident given rule)
  | .error _ => none

/-- A field has a name that is taken, once case is ignored, and this is how the first field
that has it is reported. -/
def Collides (rule : Option RenameRule) (before : List DeclaredField) (f : DeclaredField)
    (p : Problem) : Prop :=
  ∃ name first taken, f.ownName? rule = some name ∧
    before.find? (fun g => (g.ownName? rule).any (lowerText · == lowerText name)) = some first ∧
      first.ownName? rule = some taken ∧ p = .nameCollision f.ident name first.ident taken

theorem Collides.unique {rule : Option RenameRule} {before : List DeclaredField}
    {f : DeclaredField} {p q : Problem} (collides : Collides rule before f p)
    (collides' : Collides rule before f q) : p = q := by
  obtain ⟨name, first, taken, has, there, named, rfl⟩ := collides
  obtain ⟨name', first', taken', has', there', named', rfl⟩ := collides'
  cases has.symm.trans has'
  cases there.symm.trans there'
  cases named.symm.trans named'
  rfl

/-- How a field is bound that is not left out. -/
def Maps (rule : Option RenameRule) (index : Nat) (f : DeclaredField) (field : MappedField) :
    Prop :=
  ∃ given, FieldOption.ofAttributes f.attributes = .ok given ∧ given.contains .skip = false ∧
    field =
      { index, ident := f.ident, name := MappedField.boundName f.ident given rule
        binding := if given.contains .flatten then .flattened f.type
          else .named (.classify (given.contains .enum) f.type)
        options := given }

theorem Maps.unique {rule : Option RenameRule} {index : Nat} {f : DeclaredField}
    {field other : MappedField} (maps : f.Maps rule index field) (maps' : f.Maps rule index other) :
    field = other := by
  obtain ⟨given, options, _, rfl⟩ := maps
  obtain ⟨given', options', _, rfl⟩ := maps'
  cases options.symm.trans options'
  rfl

end DeclaredField

namespace MappedField

/-- A field as collisions show it. -/
def shown (field : MappedField) : String × String := (field.ident, field.name)

/-- A declared field that has a name of its own, as collisions show it. -/
def shown? (rule : Option RenameRule) (f : DeclaredField) : Option (String × String) :=
  (f.ownName? rule).map (f.ident, ·)

theorem ofField?_eq (rule : Option RenameRule) (index : Nat) (f : DeclaredField) :
    ofField? rule index f = (FieldOption.ofAttributes f.attributes).map fun given =>
      if given.contains .skip then none
      else some
        { index, ident := f.ident, name := boundName f.ident given rule
          binding := if given.contains .flatten then .flattened f.type
            else .named (.classify (given.contains .enum) f.type)
          options := given } := by
  rw [ofField?]
  cases FieldOption.ofAttributes f.attributes with
  | error found => rfl
  | ok given =>
    simp only [bind, Except.bind, Except.map]
    cases given.contains FieldOption.skip <;> rfl

/-- All that a field can add to what is bound: itself, nothing, or what is wrong with it. -/
theorem ofFields_cons (rule : Option RenameRule) (index : Nat) (f : DeclaredField)
    (rest : List DeclaredField) :
    (∃ field, f.Maps rule index field ∧ f.problems = [] ∧
      ofFields rule index (f :: rest) =
        (field :: (ofFields rule (index + 1) rest).1, (ofFields rule (index + 1) rest).2)) ∨
    ((∀ i field, ¬f.Maps rule i field) ∧ f.ownName? rule = none ∧
      ofFields rule index (f :: rest) =
        ((ofFields rule (index + 1) rest).1,
          f.problems ++ (ofFields rule (index + 1) rest).2)) := by
  rw [ofFields, ofField?_eq]
  cases options : FieldOption.ofAttributes f.attributes with
  | error found =>
    have problems : f.problems = found := by rw [DeclaredField.problems, options]
    refine Or.inr ⟨?_, ?_, ?_⟩
    · rintro i field ⟨given, accepted, _⟩
      cases options.symm.trans accepted
    · rw [DeclaredField.ownName?, options]
    · rw [problems]
      rfl
  | ok given =>
    have problems : f.problems = [] := by rw [DeclaredField.problems, options]
    cases skipped : given.contains FieldOption.skip with
    | false =>
      refine Or.inl ⟨_, ⟨given, options, skipped, rfl⟩, problems, ?_⟩
      simp only [Except.map, skipped, Bool.false_eq_true, if_false]
    | true =>
      refine Or.inr ⟨?_, ?_, ?_⟩
      · rintro i field ⟨given', accepted, kept, _⟩
        cases options.symm.trans accepted
        cases skipped.symm.trans kept
      · simp only [DeclaredField.ownName?, options, skipped, Bool.true_or, if_true]
      · rw [problems]
        simp only [Except.map, skipped, if_true, List.nil_append]

theorem shown?_of_maps {rule : Option RenameRule} {index : Nat} {f : DeclaredField}
    {field : MappedField} (maps : f.Maps rule index field) :
    shown? rule f = if field.isFlattened then none else some field.shown := by
  obtain ⟨given, options, kept, rfl⟩ := maps
  have skipped : given.contains FieldOption.skip = false := kept
  simp only [shown?, DeclaredField.ownName?, options, skipped, Bool.false_or, isFlattened]
  cases given.contains FieldOption.flatten <;> rfl

theorem ofFields_problems (rule : Option RenameRule) (index : Nat) (declared : List DeclaredField) :
    (ofFields rule index declared).2 = declared.flatMap DeclaredField.problems := by
  induction declared generalizing index with
  | nil => rfl
  | cons f rest ih =>
    rw [List.flatMap_cons, ← ih (index + 1)]
    rcases ofFields_cons rule index f rest with ⟨_, _, valid, mapped⟩ | ⟨_, _, mapped⟩
    · rw [mapped, valid, List.nil_append]
    · rw [mapped]

theorem ofFields_shown (rule : Option RenameRule) (index : Nat) (declared : List DeclaredField) :
    ((ofFields rule index declared).1.filter (!·.isFlattened)).map shown =
      declared.filterMap (shown? rule) := by
  induction declared generalizing index with
  | nil => rfl
  | cons f rest ih =>
    rcases ofFields_cons rule index f rest with ⟨field, maps, _, mapped⟩ | ⟨_, unnamed, mapped⟩
    · rw [mapped, List.filter_cons, List.filterMap_cons, shown?_of_maps maps, ← ih (index + 1)]
      cases field.isFlattened <;> rfl
    · have none : shown? rule f = none := by rw [shown?, unnamed]; rfl
      rw [mapped, List.filterMap_cons_none none, ih (index + 1)]

/-- What is bound are the fields that are not left out, each at its own place. -/
theorem ofFields_mapped (rule : Option RenameRule) (index : Nat) (declared : List DeclaredField) :
    ((ofFields rule index declared).1.map (·.index)).Pairwise (· < ·) ∧
      ∀ field, field ∈ (ofFields rule index declared).1 ↔
        ∃ (i : Nat) (f : DeclaredField), declared[i]? = some f ∧ f.Maps rule (index + i) field := by
  induction declared generalizing index with
  | nil => exact ⟨List.Pairwise.nil, fun field => iff_of_false List.not_mem_nil nofun⟩
  | cons f rest ih =>
    obtain ⟨sorted, members⟩ := ih (index + 1)
    have after : ∀ field ∈ (ofFields rule (index + 1) rest).1, index < field.index := by
      intro field member
      obtain ⟨i, g, _, _, _, _, rfl⟩ := (members field).1 member
      exact Nat.lt_add_right i (Nat.lt_succ_self index)
    have later : ∀ field, field ∈ (ofFields rule (index + 1) rest).1 ↔
        ∃ (i : Nat) (g : DeclaredField), (f :: rest)[i + 1]? = some g ∧
          g.Maps rule (index + (i + 1)) field := by
      intro field
      rw [members field]
      simp only [List.getElem?_cons_succ, Nat.add_assoc, Nat.add_comm 1]
    rcases ofFields_cons rule index f rest with ⟨field, maps, _, mapped⟩ | ⟨left, _, mapped⟩
    · rw [mapped, List.map_cons, List.pairwise_cons]
      have place : field.index = index := by
        obtain ⟨_, _, _, rfl⟩ := maps
        rfl
      refine ⟨⟨?_, sorted⟩, fun other => ?_⟩
      · intro i listed
        obtain ⟨other, member, rfl⟩ := List.mem_map.1 listed
        exact place ▸ after other member
      · rw [List.mem_cons, later other]
        constructor
        · rintro (rfl | ⟨i, g, there, maps'⟩)
          · exact ⟨0, f, rfl, maps⟩
          · exact ⟨i + 1, g, there, maps'⟩
        · rintro ⟨i, g, there, maps'⟩
          cases i with
          | zero =>
            cases there
            exact Or.inl (maps'.unique maps)
          | succ i => exact Or.inr ⟨i, g, there, maps'⟩
    · rw [mapped]
      refine ⟨sorted, fun other => ?_⟩
      rw [later other]
      constructor
      · rintro ⟨i, g, there, maps⟩
        exact ⟨i + 1, g, there, maps⟩
      · rintro ⟨i, g, there, maps⟩
        cases i with
        | zero =>
          cases there
          exact absurd maps (left _ _)
        | succ i => exact ⟨i, g, there, maps⟩

/-- Looking for a name among the fields that are bound is looking for it among all that are
declared. -/
theorem find?_shown {rule : Option RenameRule} {earlier : List MappedField}
    {before : List DeclaredField} (told : earlier.map shown = before.filterMap (shown? rule))
    (text : String) :
    (earlier.find? (lowerText ·.name == text)).map shown =
      (before.find? fun g => (g.ownName? rule).any (lowerText · == text)).bind (shown? rule) := by
  have named : ∀ g, (g.ownName? rule).any (lowerText · == text) =
      (shown? rule g).any fun pair => lowerText pair.2 == text := by
    intro g
    rw [shown?]
    cases g.ownName? rule <;> rfl
  simp only [named]
  rw [← List.find?_filterMap, ← told, List.find?_map]
  rfl

/-- A collision is reported for each field that has a taken name, and for no other. -/
theorem collisions_reported {rule : Option RenameRule} {earlier fields : List MappedField}
    {before rest : List DeclaredField} (told : earlier.map shown = before.filterMap (shown? rule))
    (own : fields.map shown = rest.filterMap (shown? rule)) :
    Reported (DeclaredField.Collides rule) before rest (collisions earlier fields) := by
  induction rest generalizing before earlier fields with
  | nil =>
    rw [List.map_eq_nil_iff.1 own]
    exact .nil
  | cons f rest ih =>
    cases named : shown? rule f with
    | none =>
      rw [List.filterMap_cons_none named] at own
      have unnamed : f.ownName? rule = none := Option.map_eq_none_iff.1 named
      refine .sound ?_ (ih ?_ own)
      · rintro p ⟨name, _, _, has, _⟩
        cases unnamed.symm.trans has
      · rw [List.filterMap_append, List.filterMap_cons_none named, told, List.filterMap_nil,
          List.append_nil]
    | some pair =>
      rw [List.filterMap_cons_some named] at own
      obtain ⟨field, later, rfl, rfl, own'⟩ := List.map_eq_cons_iff.1 own
      obtain ⟨name, has, same⟩ := Option.map_eq_some_iff.1 named
      obtain ⟨ident, rfl⟩ := Prod.mk.inj same
      have told' : (earlier ++ [field]).map shown = (before ++ [f]).filterMap (shown? rule) := by
        rw [List.map_append, List.filterMap_append, told, List.filterMap_cons_some named]
        rfl
      have search := find?_shown told (lowerText field.name)
      rw [collisions]
      cases found : earlier.find? (lowerText ·.name == lowerText field.name) with
      | none =>
        rw [found] at search
        refine .sound ?_ (ih told' own')
        rintro p ⟨name, first, taken, has', there, named, _⟩
        cases has.symm.trans has'
        have shown : shown? rule first = some (first.ident, taken) := by rw [shown?, named]; rfl
        rw [there, Option.bind_some, shown] at search
        cases search
      | some g =>
        rw [found, eq_comm, Option.map_some] at search
        obtain ⟨first, there, shown⟩ := Option.bind_eq_some_iff.1 search
        obtain ⟨taken, named, same⟩ := Option.map_eq_some_iff.1 shown
        obtain ⟨ident', rfl⟩ := Prod.mk.inj same
        have collision : Problem.nameCollision field.ident field.name g.ident g.name =
            .nameCollision f.ident field.name first.ident g.name := by rw [ident, ident']
        exact .faulty ⟨field.name, first, g.name, has, there, named, collision⟩ (ih told' own')

end MappedField

namespace StructMapping

/-- What is wrong with the options of a type. -/
def optionProblems (item : Item) : List Problem :=
  match ContainerOption.ofAttributes item.attributes with
  | .ok _ => []
  | .error found => found

/-- The options that a type has, which are none if they are refused. -/
def optionsInForce (item : Item) : List ContainerOption :=
  match ContainerOption.ofAttributes item.attributes with
  | .ok given => given
  | .error _ => []

/-- The rule that names are made by. There is none if the options of the type are refused. -/
def ruleInForce (item : Item) : Option RenameRule := ContainerOption.rename? (optionsInForce item)

/-- A declaration is judged by the list of all that is wrong with it. -/
theorem ofItem_eq {item : Item} {declared : List DeclaredField}
    (body : item.body = .fields declared) (concrete : item.generic = false) :
    ofItem item =
      let fields := (MappedField.ofFields (ruleInForce item) 0 declared).1
      match optionProblems item ++ declared.flatMap DeclaredField.problems ++
        MappedField.collisions [] (fields.filter (!·.isFlattened)) with
      | [] =>
        .ok { ident := item.ident, fields, construction := constructionOf (optionsInForce item) }
      | refused => .error refused := by
  rw [ofItem, body]
  rw [← MappedField.ofFields_problems (ruleInForce item) 0]
  simp only [concrete, Bool.false_eq_true, if_false, ruleInForce, optionProblems, optionsInForce]
  cases ContainerOption.ofAttributes item.attributes with
  | ok given => rfl
  | error found => rfl

/-- Everything that is wrong with a type is reported, in order: first what is wrong with its own
options, then what is wrong with each field's, whatever was wrong before, and last the
collisions, which only fields with names of their own have. A type is bound if and only if
nothing is wrong, and then by all fields that are not left out. -/
theorem problems_reported {item : Item} {declared : List DeclaredField}
    (body : item.body = .fields declared) (concrete : item.generic = false) :
    ∃ collided,
      (∀ problems, Reported (DeclaredField.Collides (ruleInForce item)) [] declared problems ↔
        problems = collided) ∧
      (∀ refused, ofItem item = .error refused ↔ refused ≠ [] ∧
        refused = optionProblems item ++ declared.flatMap DeclaredField.problems ++ collided) ∧
      ((∃ mapping, ofItem item = .ok mapping) ↔
        optionProblems item ++ declared.flatMap DeclaredField.problems ++ collided = []) ∧
      ∀ mapping, ofItem item = .ok mapping → mapping.ident = item.ident ∧
        (mapping.fields.map (·.index)).Pairwise (· < ·) ∧
        ∀ field, field ∈ mapping.fields ↔
          ∃ (i : Nat) (f : DeclaredField), declared[i]? = some f ∧
            f.Maps (ruleInForce item) i field := by
  have own := MappedField.ofFields_shown (ruleInForce item) 0 declared
  have bound := MappedField.ofFields_mapped (ruleInForce item) 0 declared
  simp only [Nat.zero_add] at bound
  have judged := ofItem_eq body concrete
  generalize (MappedField.ofFields (ruleInForce item) 0 declared).1 = fields at own bound judged
  have reported : Reported (DeclaredField.Collides (ruleInForce item)) [] declared
      (MappedField.collisions [] (fields.filter (!·.isFlattened))) :=
    MappedField.collisions_reported rfl own
  refine ⟨_, fun problems => ⟨fun reported' => ?_, fun same => same ▸ reported⟩, ?_⟩
  · exact Reported.unique (fun one other => one.unique other) reported' reported
  simp only at judged
  split at judged
  · rename_i silent
    rw [judged, silent]
    refine ⟨fun refused => iff_of_false nofun fun both => both.1 both.2, ?_, ?_⟩
    · exact iff_of_true ⟨_, rfl⟩ rfl
    · intro mapping accepted
      cases accepted
      exact ⟨rfl, bound⟩
  · rename_i found
    rw [judged]
    refine ⟨fun refused => ?_, iff_of_false nofun found, nofun⟩
    rw [Except.error.injEq, eq_comm (b := refused)]
    exact ⟨fun same => ⟨same ▸ found, same⟩, And.right⟩

/-- A field of one type, with these options in one attribute. -/
def fieldWith (ident : String) (tokens : List Token) : DeclaredField :=
  ⟨[⟨some "row", .arguments tokens⟩], ident, .path ⟨[], none, "i32"⟩ []⟩

/-- Something is wrong with the type, with its first field, and with the names of the others. -/
def faultyItem : Item where
  attributes := [⟨some "row", .arguments [.ident "rename"]⟩]
  ident := "S"
  generic := false
  body := .fields [fieldWith "a" [.ident "skip", .punct ',' false, .ident "read_only"],
    fieldWith "id" [.ident "enum"], fieldWith "ID" [.ident "read_only"]]

theorem faultyItem_reported : ∃ declared, faultyItem.body = .fields declared ∧
    ofItem faultyItem = .error
      [.unknownOption .container, .skipCombined, .nameCollision "ID" "ID" "id" "id"] ∧
    Reported (DeclaredField.Collides none) [] declared [.nameCollision "ID" "ID" "id" "id"] := by
  have refused : ofItem faultyItem = .error
      [.unknownOption .container, .skipCombined, .nameCollision "ID" "ID" "id" "id"] := rfl
  have body : faultyItem.body = .fields [fieldWith "a"
      [.ident "skip", .punct ',' false, .ident "read_only"],
    fieldWith "id" [.ident "enum"], fieldWith "ID" [.ident "read_only"]] := rfl
  obtain ⟨collided, reported, errors, _⟩ := problems_reported body rfl
  have all : [.unknownOption .container, .skipCombined] ++
      [.nameCollision "ID" "ID" "id" "id"] =
        [.unknownOption .container, .skipCombined] ++ collided := ((errors _).1 refused).2
  exact ⟨_, body, refused, (reported _).2 (List.append_cancel_left all)⟩

end StructMapping

end RecordBinding
