import RecordBinding.Proofs.Extraction
import RecordBinding.Proofs.SlotBinding
import RecordBinding.Record.RecordType

namespace RecordBinding.Fields

open Position

/-- How a schema describes the leaf, for the type that the whole tree belongs to. -/
def Position.descriptor (typeName : String) {fields : Fields} (p : Position fields) :
    FieldDescriptor where
  name := p.leaf.name
  ident := p.leaf.ident
  category := p.leaf.type.category
  settable := p.leaf.access.isSettable
  readable := p.leaf.access != .writeOnly
  declaredIn := p.declaringType typeName

theorem descriptor_here (typeName : String) (field : Leaf) (rest : Fields) :
    (here : Position (leaf field rest)).descriptor typeName =
      { name := field.name, ident := field.ident, category := field.type.category
        settable := field.access.isSettable, readable := field.access != .writeOnly
        declaredIn := typeName } := rfl

theorem accepts_descriptor (role : Role) (typeName : String) {fields : Fields}
    (p : Position fields) : role.accepts (p.descriptor typeName) = role.admits p.leaf.access := by
  cases role with
  | setting => rfl
  | column =>
    change (p.leaf.access.isSettable && p.leaf.access != .writeOnly) = p.leaf.access.isColumn
    cases p.leaf.access <;> rfl

/-- Leaf and descriptor answer to the same names in the same roles. -/
theorem answers_descriptor (role : Role) (name typeName : String) {fields : Fields}
    (p : Position fields) : (p.descriptor typeName).answers role name = p.answers role name := by
  rw [FieldDescriptor.answers, accepts_descriptor, Position.answers, FieldDescriptor.isNamed,
    eqIgnoreCase_comm]
  rfl

/-- The candidates for the schema of a type. A skipped leaf is none, and of a
flattened type those are left that its own schema keeps. -/
def candidatePositions : (fields : Fields) → List (Position fields)
  | nil => []
  | leaf field rest =>
    match field.access with
    | .skipped => rest.candidatePositions.map later
    | _ => here :: rest.candidatePositions.map later
  | flatten _ innerName inner rest =>
    (keepBy (·.descriptor innerName) [] inner.candidatePositions).map inside ++
      rest.candidatePositions.map after

/-- The leaves that the schema of a type keeps. The others are skipped, or dropped as
shadowed at some level of the tree. -/
def keptPositions (fields : Fields) (typeName : String) : List (Position fields) :=
  keepBy (·.descriptor typeName) [] fields.candidatePositions

theorem candidatePositions_sublist (fields : Fields) :
    fields.candidatePositions.Sublist fields.positions := by
  induction fields with
  | nil => exact List.Sublist.refl _
  | leaf field rest ih =>
    rw [candidatePositions, positions]
    cases field.access with
    | skipped => exact (ih.map later).cons _
    | both | readOnly | writeOnly => exact (ih.map later).cons_cons _
  | flatten ident innerName inner rest innerIh restIh =>
    have kept := keepBy_sublist (fun p : Position inner => p.descriptor innerName) []
      inner.candidatePositions
    exact ((kept.trans innerIh).map inside).append (restIh.map after)

/-- The kept leaves stand in declaration order, each of them once. -/
theorem keptPositions_sublist (fields : Fields) (typeName : String) :
    (fields.keptPositions typeName).Sublist fields.positions :=
  (keepBy_sublist _ [] fields.candidatePositions).trans fields.candidatePositions_sublist

theorem candidates_eq (fields : Fields) (typeName : String) :
    (fields.declarations.candidates typeName).1 =
      fields.candidatePositions.map (·.descriptor typeName) := by
  induction fields generalizing typeName with
  | nil => rfl
  | leaf field rest ih =>
    have others : (rest.candidatePositions.map later).map
        (fun p : Position (leaf field rest) => p.descriptor typeName) =
          (rest.declarations.candidates typeName).1 := by
      rw [ih, List.map_map]
      rfl
    cases access : field.access with
    | skipped => simp only [declarations, candidatePositions, access, others]
    | both | readOnly | writeOnly =>
      simp only [declarations, candidatePositions, access, List.map_cons, others,
        Declarations.candidates, descriptor_here]
      rfl
  | flatten ident innerName inner rest innerIh restIh =>
    have kept : (Schema.ofCandidates innerName true
        (inner.declarations.candidates innerName).1).1.fields =
          (keepBy (·.descriptor innerName) [] inner.candidatePositions).map
            (·.descriptor innerName) := by
      rw [innerIh]
      exact keepFields_map (·.descriptor innerName) innerName [] inner.candidatePositions
    simp only [declarations, Declarations.candidates, candidatePositions, List.map_append,
      List.map_map, kept, restIh]
    rfl

theorem schema_fields (type : RecordType) :
    type.schema.fields =
      (type.fields.keptPositions type.name).map (·.descriptor type.name) := by
  have kept := keepFields_map (·.descriptor type.name) type.name [] type.fields.candidatePositions
  rw [← candidates_eq] at kept
  exact kept

/-- In a role the kept leaves have the same first leaf of a name as all leaves. -/
theorem find?_keep (fields : Fields) (candidates : List (Position fields)) (typeName name : String)
    (role : Role) :
    (keepBy (·.descriptor typeName) [] candidates).find? (·.answers role name) =
      candidates.find? (·.answers role name) := by
  have same := find?_keepBy (fun p : Position fields => p.descriptor typeName) role name [] candidates
  simpa only [answers_descriptor, List.nil_append] using same

theorem find?_candidatePositions (fields : Fields) (role : Role) (name : String) :
    fields.candidatePositions.find? (·.answers role name) = fields.reached? role name := by
  induction fields with
  | nil => rfl
  | leaf field rest ih =>
    have others : (rest.candidatePositions.map later).find?
        (fun p : Position (leaf field rest) => p.answers role name) =
          (rest.reached? role name).map later := by
      rw [List.find?_map, ← ih]
      rfl
    rw [reached?_leaf, candidatePositions]
    cases access : field.access with
    | skipped =>
      have silent : role.admits .skipped = false := by cases role <;> rfl
      rw [silent, Bool.false_and, if_neg Bool.false_ne_true]
      exact others
    | both | readOnly | writeOnly =>
      simp only [List.find?_cons, others, answers_here, access]
      cases role.admits _ && eqIgnoreCase name field.name <;> rfl
  | flatten ident innerName inner rest innerIh restIh =>
    rw [reached?_flatten, candidatePositions, List.find?_append, List.find?_map, List.find?_map,
      ← innerIh, ← restIh, ← find?_keep inner inner.candidatePositions innerName name role]
    rfl

/-- Dropping shadowed fields at every level loses no leaf that a name reaches. -/
theorem find?_keptPositions (fields : Fields) (typeName : String) (role : Role) (name : String) :
    (fields.keptPositions typeName).find? (·.answers role name) = fields.reached? role name :=
  (find?_keep fields fields.candidatePositions typeName name role).trans
    (fields.find?_candidatePositions role name)

theorem mem_keptPositions_of_reached? {fields : Fields} {role : Role} {name : String}
    {p : Position fields} (reach : fields.reached? role name = some p) (typeName : String) :
    p ∈ fields.keptPositions typeName :=
  List.mem_of_find?_eq_some ((fields.find?_keptPositions typeName role name).trans reach)

theorem setField_of_dropped {fields : Fields} {typeName : String} {p : Position fields}
    (dropped : p ∉ fields.keptPositions typeName) (name : String) (v : Value)
    (record : fields.Instance) : p.get (fields.setField name v record).1 = p.get record := by
  cases reach : fields.reached? .setting name with
  | none => rw [setField_eq, reach]
  | some q =>
    have other : p ≠ q := fun same => dropped (same ▸ mem_keptPositions_of_reached? reach typeName)
    exact (setsOnly_of_reached? reach v record).2.2 p other

theorem bindColumn_of_dropped {fields : Fields} {typeName name : String} {p : Position fields}
    {slot : Nat} {v : Value} {record after : fields.Instance}
    (dropped : p ∉ fields.keptPositions typeName) (resolved : fields.resolveColumn name = some slot)
    (bound : fields.bindColumn slot v record = .ok after) : p.get after = p.get record := by
  obtain ⟨q, reach⟩ := resolveColumn_exists_iff.1 ⟨slot, resolved⟩
  have other : p ≠ q := fun same => dropped (same ▸ mem_keptPositions_of_reached? reach typeName)
  obtain ⟨onOk, onError⟩ :=
    bindsOnly_of_owner? ((owner?_of_resolveColumn resolved).trans reach) v record
  cases outcome : q.leaf.type.coerce v with
  | ok x =>
    obtain ⟨_, result, assigns⟩ := onOk x outcome
    cases bound.symm.trans result
    exact assigns.2 p other
  | error e => cases bound.symm.trans (onError e outcome)

/-- The schema's fields for a role have, of each name, the descriptor of the leaf that
the name reaches. -/
theorem find?_listed (type : RecordType) (role : Role) (name : String) :
    (Schema.firstOfName role.accepts [] type.schema.fields).find? (·.isNamed name) =
      (type.fields.reached? role name).map (·.descriptor type.name) := by
  have answers : (FieldDescriptor.answers role name) ∘
      (fun p : Position type.fields => p.descriptor type.name) = (·.answers role name) :=
    funext (answers_descriptor role name type.name)
  rw [Schema.find?_firstOfName, schema_fields, List.find?_map]
  change ((type.fields.keptPositions type.name).find? (FieldDescriptor.answers role name ∘ _)).map _
    = _
  rw [answers, find?_keptPositions]

theorem listed_iff_reached (type : RecordType) (role : Role) (name : String) :
    (∃ d ∈ Schema.firstOfName role.accepts [] type.schema.fields, d.isNamed name = true) ↔
      ∃ p, type.fields.reached? role name = some p := by
  rw [← List.find?_isSome, find?_listed, Option.isSome_map, Option.isSome_iff_exists]

/-- A descriptor that the schema lists for a role describes the kept leaf that each of
its names reaches. -/
theorem reached_of_listed (type : RecordType) (role : Role) {name : String} {d : FieldDescriptor}
    (listed : d ∈ Schema.firstOfName role.accepts [] type.schema.fields)
    (named : d.isNamed name = true) :
    ∃ p ∈ type.fields.keptPositions type.name, p.descriptor type.name = d ∧
      type.fields.reached? role name = some p := by
  have found := Schema.find?_of_mem_firstOfName listed named
  rw [find?_listed] at found
  obtain ⟨p, reach, same⟩ := Option.map_eq_some_iff.1 found
  exact ⟨p, mem_keptPositions_of_reached? reach type.name, same, reach⟩

/-- What the schema of a record type lists for setting and for columns is what names
reach. A name sets a field, or resolves to a slot, just when the schema lists a field
with that name, and what is assigned then is the leaf so described: the first one in
declaration order that takes part and has the name. So a leaf that is dropped as
shadowed, at whatever level, is never assigned by name, and each listed one is. -/
theorem names_reach_listed_fields (type : RecordType) :
    type.schema.fields = (type.fields.keptPositions type.name).map (·.descriptor type.name) ∧
    (type.fields.keptPositions type.name).Sublist type.fields.positions ∧
    (∀ name v record, (type.fields.setField name v record).2 = none ↔
      ∃ d ∈ type.schema.settableFields, d.isNamed name = true) ∧
    (∀ name, ∀ d ∈ type.schema.settableFields, d.isNamed name = true →
      ∃ p ∈ type.fields.keptPositions type.name, p.descriptor type.name = d ∧
        p.IsFirst .setting name ∧ type.fields.SetsOnly name p) ∧
    (∀ name, (∃ slot, type.fields.resolveColumn name = some slot) ↔
      ∃ d ∈ type.schema.columnFields, d.isNamed name = true) ∧
    (∀ name slot, type.fields.resolveColumn name = some slot →
      ∀ d ∈ type.schema.columnFields, d.isNamed name = true →
        ∃ p ∈ type.fields.keptPositions type.name, p.descriptor type.name = d ∧
          p.IsFirst .column name ∧ type.fields.BindsOnly slot p) ∧
    (∀ p ∉ type.fields.keptPositions type.name, ∀ name v record,
      p.get (type.fields.setField name v record).1 = p.get record) ∧
    (∀ p ∉ type.fields.keptPositions type.name, ∀ name slot v record after,
      type.fields.resolveColumn name = some slot →
        type.fields.bindColumn slot v record = .ok after → p.get after = p.get record) ∧
    (∀ d ∈ type.schema.settableFields, ∃ p ∈ type.fields.keptPositions type.name,
      p.descriptor type.name = d ∧ type.fields.SetsOnly d.name p) ∧
    (∀ d ∈ type.schema.columnFields, ∃ slot, type.fields.resolveColumn d.name = some slot ∧
      ∃ p ∈ type.fields.keptPositions type.name, p.descriptor type.name = d ∧
        type.fields.BindsOnly slot p) := by
  refine ⟨schema_fields type, type.fields.keptPositions_sublist type.name, ?_, ?_, ?_, ?_, ?_, ?_, ?_, ?_⟩
  · intro name v record
    exact (setField_isSet_iff ..).trans (listed_iff_reached type .setting name).symm
  · intro name d listed named
    obtain ⟨p, kept, same, reach⟩ := reached_of_listed type .setting listed named
    exact ⟨p, kept, same, isFirst_of_reached? reach, setsOnly_of_reached? reach⟩
  · intro name
    exact resolveColumn_exists_iff.trans (listed_iff_reached type .column name).symm
  · intro name slot resolved d listed named
    obtain ⟨p, kept, same, reach⟩ := reached_of_listed type .column listed named
    have owned := (owner?_of_resolveColumn resolved).trans reach
    exact ⟨p, kept, same, isFirst_of_reached? reach, bindsOnly_of_owner? owned⟩
  · intro p dropped name v record
    exact setField_of_dropped dropped name v record
  · intro p dropped name slot v record after resolved bound
    exact bindColumn_of_dropped dropped resolved bound
  · intro d listed
    obtain ⟨p, kept, same, reach⟩ := reached_of_listed type .setting listed (eqIgnoreCase_refl d.name)
    exact ⟨p, kept, same, setsOnly_of_reached? reach⟩
  · intro d listed
    obtain ⟨p, kept, same, reach⟩ := reached_of_listed type .column listed (eqIgnoreCase_refl d.name)
    obtain ⟨slot, resolved⟩ := resolveColumn_exists_iff.2 ⟨p, reach⟩
    have owned := (owner?_of_resolveColumn resolved).trans reach
    exact ⟨slot, resolved, p, kept, same, bindsOnly_of_owner? owned⟩

end RecordBinding.Fields
