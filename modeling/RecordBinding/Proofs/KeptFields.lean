import Mathlib.Data.List.Induction
import Mathlib.Data.List.Perm.Subperm
import RecordBinding.Proofs.Inlining

namespace RecordBinding

namespace Role

/-- The least rank of the fields that a role accepts. -/
def level : Role → Nat
  | setting => 1
  | column => 2

end Role

namespace FieldDescriptor

/-- How much a field can be used for: nothing, being set by name, or that and being bound
from a column. -/
def rank (field : FieldDescriptor) : Nat :=
  if field.isColumn then 2 else if field.settable then 1 else 0

theorem accepts_iff_rank {role : Role} {field : FieldDescriptor} :
    role.accepts field = true ↔ role.level ≤ field.rank := by
  unfold rank isColumn
  cases role <;> cases settable : field.settable <;> cases readable : field.readable <;>
    simp [Role.accepts, Role.level, isColumn, settable, readable]

theorem rank_cases (field : FieldDescriptor) :
    field.rank = 0 ∨ ∃ role : Role, role.level = field.rank := by
  unfold rank
  split
  · exact .inr ⟨.column, rfl⟩
  · split
    · exact .inr ⟨.setting, rfl⟩
    · exact .inl rfl

theorem rank_lt_three (field : FieldDescriptor) : field.rank < 3 := by
  unfold rank
  split
  · decide
  · split <;> decide

theorem rank_of_column {field : FieldDescriptor} (column : field.isColumn = true) :
    field.rank = 2 :=
  if_pos column

/-- Every kept field with the field's name is of a lower rank. A name that no kept field has
is no obstacle. -/
def Outranks (field : FieldDescriptor) (kept : List FieldDescriptor) : Prop :=
  ∀ earlier ∈ kept, earlier.isNamed field.name = true → earlier.rank < field.rank

theorem not_outranks_iff {field : FieldDescriptor} {kept : List FieldDescriptor} :
    ¬field.Outranks kept ↔
      ∃ earlier ∈ kept, earlier.isNamed field.name = true ∧ field.rank ≤ earlier.rank := by
  simp only [Outranks, not_forall, Nat.not_lt, exists_prop]

theorem isNew_eq_false_iff_rank {kept : List FieldDescriptor} {field : FieldDescriptor} :
    field.isNew kept = false ↔ ¬field.Outranks kept := by
  rw [isNew_eq_false_iff, not_outranks_iff]
  constructor
  · intro taken
    -- The group that the field's own rank opens is taken by a field of that rank at least.
    rcases field.rank_cases with lowest | ⟨role, level⟩
    · obtain ⟨earlier, member, named⟩ := List.any_eq_true.1 (taken none rfl)
      exact ⟨earlier, member, named, by omega⟩
    · have accepted : role.accepts field = true := accepts_iff_rank.2 (by omega)
      obtain ⟨earlier, member, answers⟩ := List.any_eq_true.1 (taken (some role) accepted)
      obtain ⟨accepts, named⟩ := Bool.and_eq_true_iff.1 answers
      have reaches : role.level ≤ earlier.rank := accepts_iff_rank.1 accepts
      exact ⟨earlier, member, named, by omega⟩
  · rintro ⟨earlier, member, named, above⟩ group inGroup
    refine List.any_eq_true.2 ⟨earlier, member, Bool.and_eq_true_iff.2 ⟨?_, named⟩⟩
    cases group with
    | none => rfl
    | some role =>
      have own : role.level ≤ field.rank := accepts_iff_rank.1 inGroup
      exact accepts_iff_rank.2 (Nat.le_trans own above)

/-- The first field of its name in a role is new in the group of that role. -/
theorem isNew_of_first_in_role {field : FieldDescriptor} {role : Role}
    (accepted : role.accepts field = true) {passed : List FieldDescriptor}
    (first : ∀ earlier ∈ passed, earlier.answers role field.name = false) :
    field.isNew passed = true := by
  by_contra old
  have taken := isNew_eq_false_iff.1 (Bool.eq_false_iff.2 old) (some role) accepted
  obtain ⟨earlier, member, answers⟩ := List.any_eq_true.1 taken
  exact absurd answers (ne_true_of_eq_false (first earlier member))

end FieldDescriptor

open FieldDescriptor

namespace Event

/-- The reports that are worth a warning. -/
def warnings (events : List Event) : List Event := events.filter (·.level == "WARN")

theorem warnings_append (first second : List Event) :
    warnings (first ++ second) = warnings first ++ warnings second :=
  List.filter_append first second

end Event

open Event

/-- The report on a field that is dropped because of a kept one. -/
def droppedFor (typeName : String) (field keeper : FieldDescriptor) : Event :=
  .shadowed typeName field.name field.declaredIn keeper.declaredIn

/-- The candidates gone through so far, the fields kept, and the warnings given. A field is
kept if it outranks the kept ones that have its name. Otherwise there is one warning, which
names the type that declares the first of them. -/
inductive Extracts (typeName : String) :
    List FieldDescriptor → List FieldDescriptor → List Event → Prop
  | start : Extracts typeName [] [] []
  | kept {candidates fields warned field} : Extracts typeName candidates fields warned →
      field.Outranks fields →
      Extracts typeName (candidates ++ [field]) (fields ++ [field]) warned
  | dropped {candidates fields warned field keeper} :
      Extracts typeName candidates fields warned → ¬field.Outranks fields →
      fields.find? (·.isNamed field.name) = some keeper →
      Extracts typeName (candidates ++ [field]) fields
        (warned ++ [droppedFor typeName field keeper])

namespace Extracts

variable {typeName : String} {candidates fields : List FieldDescriptor} {warned : List Event}

theorem ranks_rise (run : Extracts typeName candidates fields warned) :
    fields.Pairwise fun earlier later =>
      earlier.isNamed later.name = true → earlier.rank < later.rank := by
  induction run with
  | start => exact .nil
  | kept _ outranks ih =>
    refine List.pairwise_append.2 ⟨ih, List.pairwise_singleton _ _, ?_⟩
    intro earlier member later last
    cases List.mem_singleton.1 last
    exact outranks earlier member
  | dropped _ _ _ ih => exact ih

/-- A candidate is kept or there is one warning. -/
theorem length_balance (run : Extracts typeName candidates fields warned) :
    fields.length + warned.length = candidates.length := by
  induction run with
  | start => rfl
  | kept _ _ ih =>
    simp only [List.length_append, List.length_singleton]
    omega
  | dropped _ _ _ ih =>
    simp only [List.length_append, List.length_singleton]
    omega

/-- Fields kept later do not change which kept field is the first of a name. -/
theorem warned_names_keeper (run : Extracts typeName candidates fields warned) :
    ∀ warning ∈ warned, ∃ field ∈ candidates, ∃ keeper,
      fields.find? (·.isNamed field.name) = some keeper ∧
        warning = droppedFor typeName field keeper := by
  induction run with
  | start => intro warning given; cases given
  | @kept before _ _ new _ _ ih =>
    intro warning given
    obtain ⟨field, member, keeper, found, same⟩ := ih warning given
    refine ⟨field, List.mem_append_left [new] member, keeper, ?_, same⟩
    rw [List.find?_append, found, Option.some_or]
  | @dropped before _ _ field keeper _ _ found ih =>
    intro warning given
    rcases List.mem_append.1 given with old | new
    · obtain ⟨other, member, otherKeeper, otherFound, same⟩ := ih warning old
      exact ⟨other, List.mem_append_left [field] member, otherKeeper, otherFound, same⟩
    · refine ⟨field, List.mem_append_right before (List.mem_singleton_self field), keeper, found, ?_⟩
      exact List.mem_singleton.1 new

end Extracts

theorem keepFields_append (typeName : String) (kept first second : List FieldDescriptor) :
    keepFields typeName kept (first ++ second) =
      ((keepFields typeName (keepFields typeName kept first).1 second).1,
        (keepFields typeName kept first).2 ++
          (keepFields typeName (keepFields typeName kept first).1 second).2) := by
  induction first generalizing kept with
  | nil => rfl
  | cons field rest ih =>
    rw [List.cons_append, keepFields, keepFields]
    cases admission kept field with
    | first => exact ih (kept ++ [field])
    | differs =>
      dsimp only
      rw [ih (kept ++ [field]), List.cons_append]
    | shadowed keeper =>
      dsimp only
      rw [ih kept, List.cons_append]

/-- The field that a dropped one is dropped for is the first kept one of its name. -/
theorem find?_of_shadowed {kept : List FieldDescriptor} {field keeper : FieldDescriptor}
    (shadowed : admission kept field = .shadowed keeper) :
    kept.find? (·.isNamed field.name) = some keeper := by
  rw [← List.head?_filter]
  unfold admission at shadowed
  split at shadowed
  · cases shadowed
  · rename_i first others sameName
    dsimp only at shadowed
    split at shadowed
    · cases shadowed
      rw [sameName, List.head?_cons]
    · cases shadowed

theorem keepFields_singleton (typeName : String) (kept : List FieldDescriptor)
    (field : FieldDescriptor) :
    field.Outranks kept ∧ (keepFields typeName kept [field]).1 = kept ++ [field] ∧
        warnings (keepFields typeName kept [field]).2 = [] ∨
      ¬field.Outranks kept ∧ ∃ keeper, kept.find? (·.isNamed field.name) = some keeper ∧
        keepFields typeName kept [field] = (kept, [droppedFor typeName field keeper]) := by
  have dropped_iff : (∃ keeper, admission kept field = .shadowed keeper) ↔
      ¬field.Outranks kept := admission_shadowed_iff.trans isNew_eq_false_iff_rank
  by_cases outranks : field.Outranks kept
  · refine .inl ⟨outranks, ?_⟩
    rw [keepFields]
    cases outcome : admission kept field with
    | shadowed keeper => exact absurd outranks (dropped_iff.1 ⟨keeper, outcome⟩)
    | first => exact ⟨rfl, rfl⟩
    | differs => exact ⟨rfl, rfl⟩
  · obtain ⟨keeper, shadowed⟩ := dropped_iff.2 outranks
    refine .inr ⟨outranks, keeper, find?_of_shadowed shadowed, ?_⟩
    rw [keepFields, shadowed]
    rfl

theorem extracts_keepFields (typeName : String) (candidates : List FieldDescriptor) :
    Extracts typeName candidates (keepFields typeName [] candidates).1
      (warnings (keepFields typeName [] candidates).2) := by
  induction candidates using List.reverseRecOn with
  | nil => exact .start
  | append_singleton before field ih =>
    rw [keepFields_append, warnings_append]
    rcases keepFields_singleton typeName (keepFields typeName [] before).1 field with
      ⟨outranks, fields, silent⟩ | ⟨outranked, keeper, found, step⟩
    · rw [fields, silent, List.append_nil]
      exact ih.kept outranks
    · rw [step]
      exact ih.dropped outranked found

/-- There is nothing to choose on the way: extraction keeps and reports what the rule says. -/
theorem Extracts.eq_keepFields {typeName : String} {candidates fields : List FieldDescriptor}
    {warned : List Event} (run : Extracts typeName candidates fields warned) :
    fields = (keepFields typeName [] candidates).1 ∧
      warned = warnings (keepFields typeName [] candidates).2 := by
  induction run with
  | start => exact ⟨rfl, rfl⟩
  | @kept before fields warned field _ outranks ih =>
    obtain ⟨sameFields, sameWarned⟩ := ih
    rw [keepFields_append, ← sameFields, warnings_append, ← sameWarned]
    rcases keepFields_singleton typeName fields field with ⟨_, next, silent⟩ | ⟨outranked, _⟩
    · rw [next, silent, List.append_nil]
      exact ⟨rfl, rfl⟩
    · exact absurd outranks outranked
  | @dropped before fields warned field keeper _ outranked found ih =>
    obtain ⟨sameFields, sameWarned⟩ := ih
    rw [keepFields_append, ← sameFields, warnings_append, ← sameWarned]
    rcases keepFields_singleton typeName fields field with ⟨outranks, _⟩ | ⟨_, first, alsoFound, step⟩
    · exact absurd outranks outranked
    · have same : first = keeper := Option.some.inj (alsoFound.symm.trans found)
      rw [step, same]
      exact ⟨rfl, rfl⟩

theorem Extracts.unique {typeName : String} {candidates fields otherFields : List FieldDescriptor}
    {warned otherWarned : List Event} (run : Extracts typeName candidates fields warned)
    (other : Extracts typeName candidates otherFields otherWarned) :
    otherFields = fields ∧ otherWarned = warned := by
  obtain ⟨sameFields, sameWarned⟩ := run.eq_keepFields
  obtain ⟨otherSameFields, otherSameWarned⟩ := other.eq_keepFields
  exact ⟨otherSameFields.trans sameFields.symm, otherSameWarned.trans sameWarned.symm⟩

/-- A new field has its place behind the new ones before it. -/
theorem newFields_of_isNew {before : List FieldDescriptor} {field : FieldDescriptor}
    (new : field.isNew before = true) (after : List FieldDescriptor) :
    ∃ kept later, newFields [] (before ++ field :: after) = kept ++ field :: later ∧
      kept.Sublist before ∧ later.Sublist after := by
  refine ⟨newFields [] before, newFields (before ++ [field]) after, ?_, newFields_sublist [] before,
    newFields_sublist (before ++ [field]) after⟩
  rw [newFields_append, List.nil_append, newFields, if_pos new]

/-- Fields of one name are no more than the ranks that they can have. -/
theorem length_le_of_ranks {fields : List FieldDescriptor} (ranks : List Nat)
    (rise : fields.Pairwise fun earlier later => earlier.rank < later.rank)
    (within : ∀ field ∈ fields, field.rank ∈ ranks) : fields.length ≤ ranks.length := by
  have distinct : (fields.map rank).Nodup :=
    (List.pairwise_map.2 rise).imp Nat.ne_of_lt
  have covered : fields.map rank ⊆ ranks := by
    intro r member
    obtain ⟨field, inFields, rfl⟩ := List.mem_map.1 member
    exact within field inFields
  have bound := (distinct.subperm covered).length_le
  rwa [List.length_map] at bound

namespace Schema

/-- Nothing is passed over for its name if no two accepted fields share one. -/
theorem firstOfName_eq_filter {accepts : FieldDescriptor → Bool}
    {passed fields : List FieldDescriptor}
    (distinct : (passed ++ fields).Pairwise fun earlier later =>
      accepts earlier = true → accepts later = true → earlier.isNamed later.name = false) :
    firstOfName accepts passed fields = fields.filter accepts := by
  induction fields generalizing passed with
  | nil => rfl
  | cons field rest ih =>
    have later := ih (List.append_cons passed field rest ▸ distinct)
    rw [firstOfName, later, List.filter_cons]
    cases accepted : accepts field with
    | false => rfl
    | true =>
      have free : (passed.any fun earlier => accepts earlier && earlier.isNamed field.name) =
          false := by
        refine List.any_eq_false.2 fun earlier member taken => ?_
        obtain ⟨accepts, named⟩ := Bool.and_eq_true_iff.1 taken
        have apart := (List.pairwise_append.1 distinct).2.2 earlier member field (.head rest)
        exact absurd named (ne_true_of_eq_false (apart accepts accepted))
      rw [free]
      rfl

end Schema

namespace Extracts

variable {typeName : String} {candidates fields : List FieldDescriptor} {warned : List Event}

/-- Among fields that share a name no rank comes twice. -/
theorem ranks_rise_of_name (run : Extracts typeName candidates fields warned) {name : String}
    {accepts : FieldDescriptor → Bool} (named : ∀ field, accepts field → field.isNamed name) :
    (fields.filter accepts).Pairwise fun earlier later => earlier.rank < later.rank := by
  refine List.pairwise_filter.2 (run.ranks_rise.imp ?_)
  intro earlier later rises first second
  refine rises ?_
  rw [isNamed_name (named later second)]
  exact named earlier first

theorem count_named_le_three (run : Extracts typeName candidates fields warned) (name : String) :
    (fields.filter (·.isNamed name)).length ≤ 3 := by
  refine length_le_of_ranks (List.range 3) (run.ranks_rise_of_name fun _ named => named) ?_
  intro field _
  exact List.mem_range.2 field.rank_lt_three

theorem count_columns_le_one (run : Extracts typeName candidates fields warned) (name : String) :
    (fields.filter (·.answers .column name)).length ≤ 1 := by
  refine length_le_of_ranks [2]
    (run.ranks_rise_of_name fun _ answers => (answers_iff.1 answers).2) ?_
  intro field listed
  have column := (answers_iff.1 (List.mem_filter.1 listed).2).1
  exact List.mem_singleton.2 (rank_of_column column)

theorem columns_eq_filter (run : Extracts typeName candidates fields warned) :
    Schema.firstOfName (·.isColumn) [] fields = fields.filter (·.isColumn) := by
  refine Schema.firstOfName_eq_filter (run.ranks_rise.imp ?_)
  intro earlier later rises first second
  have top := rank_of_column first
  have same := rank_of_column second
  refine Bool.eq_false_iff.2 fun named => ?_
  have below := rises named
  omega

end Extracts

theorem ofCandidates_extracts (typeName : String) (constructible : Bool)
    (candidates : List FieldDescriptor) :
    Extracts typeName candidates (Schema.ofCandidates typeName constructible candidates).1.fields
      (warnings (Schema.ofCandidates typeName constructible candidates).2) := by
  have silent : warnings (Schema.ofCandidates typeName constructible candidates).2 =
      warnings (keepFields typeName [] candidates).2 := by
    rw [Schema.ofCandidates, warnings_append]
    exact List.append_nil _
  rw [silent]
  exact extracts_keepFields typeName candidates

namespace Declarations

/-- Every field that is declared anywhere in a type is among its candidates, or there was a
warning when an inner schema dropped it, which is extracted afresh at each use. -/
theorem candidates_length_balance (typeName : String) (declared : Declarations) :
    (declared.candidates typeName).1.length + (warnings (declared.candidates typeName).2).length =
      (declared.inlined typeName).length := by
  induction declared generalizing typeName with
  | nil => rfl
  | field descriptor rest ih =>
    have later := ih typeName
    simp only [candidates, inlined, List.length_cons]
    omega
  | flatten innerName constructible inner rest innerIh restIh =>
    have inside := innerIh innerName
    have later := restIh typeName
    have spliced :=
      (ofCandidates_extracts innerName constructible (inner.candidates innerName).1).length_balance
    simp only [candidates, inlined, warnings_append, List.length_append]
    omega

theorem extract_length_balance (typeName : String) (constructible : Bool)
    (declared : Declarations) :
    (declared.extract typeName constructible).1.fields.length +
        (warnings (declared.extract typeName constructible).2).length =
      (declared.inlined typeName).length := by
  have inner := declared.candidates_length_balance typeName
  have own :=
    (ofCandidates_extracts typeName constructible (declared.candidates typeName).1).length_balance
  simp only [extract, warnings_append, List.length_append]
  omega

/-- What a schema keeps of its candidates, which are the type's own fields and the fields of
the schemas it flattens, in place. A candidate is kept if it outranks all kept fields of its
name, and otherwise dropped with one warning, so that fields and warnings make up the
candidates. The fields of one name rise in rank: there are three at most, and one column at
most. For each name the first candidate that can be set and the first that is a column are kept
in their places, so all columns that are kept can be bound. The last part is about inner schemas
that are extracted afresh at each use and warn each time: then fields and all warnings make up
everything declared. An inner schema that is extracted once and kept warns only once, however
often it is used. -/
theorem extract_keeps_rising_ranks (typeName : String) (constructible : Bool)
    (declared : Declarations) :
    let candidates := (declared.candidates typeName).1
    let schema := (declared.extract typeName constructible).1
    ∃ reports, (declared.extract typeName constructible).2 =
        (declared.candidates typeName).2 ++ reports ∧
      (∀ fields warned, Extracts typeName candidates fields warned ↔
        fields = schema.fields ∧ warned = warnings reports) ∧
      schema.fields.Sublist candidates ∧
      (schema.fields.Pairwise fun earlier later =>
        earlier.isNamed later.name = true → earlier.rank < later.rank) ∧
      (∀ name, (schema.fields.filter (·.isNamed name)).length ≤ 3) ∧
      (∀ name, (schema.fields.filter (·.answers .column name)).length ≤ 1) ∧
      (∀ role before field after, candidates = before ++ field :: after →
        role.accepts field = true →
        (∀ earlier ∈ before, earlier.answers role field.name = false) →
          ∃ kept later, schema.fields = kept ++ field :: later ∧
            kept.Sublist before ∧ later.Sublist after) ∧
      schema.columnFields = schema.fields.filter (·.isColumn) ∧
      (∀ warning ∈ warnings reports, ∃ field ∈ candidates, ∃ keeper,
        schema.field? field.name = some keeper ∧ warning = droppedFor typeName field keeper) ∧
      schema.fields.length + (warnings reports).length = candidates.length ∧
      schema.fields.length + (warnings (declared.extract typeName constructible).2).length =
        (declared.inlined typeName).length := by
  intro candidates schema
  have run := ofCandidates_extracts typeName constructible candidates
  have fields_eq : schema.fields = newFields [] candidates :=
    ofCandidates_fields typeName constructible candidates
  refine ⟨(Schema.ofCandidates typeName constructible candidates).2, rfl, ?_, ?_,
    run.ranks_rise, run.count_named_le_three, run.count_columns_le_one, ?_, run.columns_eq_filter,
    run.warned_names_keeper, run.length_balance,
    declared.extract_length_balance typeName constructible⟩
  · intro fields warned
    constructor
    · exact run.unique
    · rintro ⟨rfl, rfl⟩
      exact run
  · rw [fields_eq]
    exact newFields_sublist [] candidates
  · intro role before field after order accepted first
    rw [fields_eq, order]
    exact newFields_of_isNew (isNew_of_first_in_role accepted first) after

/-- Fields of one name in every rank, the lowest first, are all kept. The last one comes too
late. -/
example :
    let named (name : String) (settable readable : Bool) : FieldDescriptor :=
      ⟨name, "x", .other "X", settable, readable, ""⟩
    let declared : Declarations := .field (named "id" false true) <|
      .flatten "Base" true (.field (named "ID" true false) <| .field (named "Id" true true) .nil) <|
      .field (named "iD" true true) .nil
    ((declared.extract "Child" true).1.fields.map fun field => (field.name, field.rank)) =
        [("id", 0), ("ID", 1), ("Id", 2)] ∧
      warnings (declared.extract "Child" true).2 = [.shadowed "Child" "iD" "Child" "Child"] := by
  decide

end Declarations

end RecordBinding
