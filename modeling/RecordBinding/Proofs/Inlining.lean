import RecordBinding.Proofs.Extraction

namespace RecordBinding

namespace FieldDescriptor

/-- The groups in which a field can be the first of its name: all fields, those that
are set by name, and those that are bound from columns. -/
def isIn (field : FieldDescriptor) : Option Role → Bool
  | none => true
  | some role => role.accepts field

/-- A field passed before is in the group and has the name. -/
def isTaken (passed : List FieldDescriptor) (group : Option Role) (name : String) : Bool :=
  passed.any fun earlier => earlier.isIn group && earlier.isNamed name

/-- In some group the field is the first of its name. -/
def isNew (passed : List FieldDescriptor) (field : FieldDescriptor) : Bool :=
  [none, some .setting, some .column].any fun group =>
    field.isIn group && !isTaken passed group field.name

theorem isNew_eq_false_iff {passed : List FieldDescriptor} {field : FieldDescriptor} :
    field.isNew passed = false ↔
      ∀ group, field.isIn group = true → isTaken passed group field.name = true := by
  simp only [isNew, List.any_eq_false, List.mem_cons, List.not_mem_nil, or_false,
    Bool.and_eq_true, Bool.not_eq_true', not_and, Bool.not_eq_false]
  constructor
  · intro taken group
    refine taken group ?_
    rcases group with _ | _ | _ <;> simp
  · intro taken group _
    exact taken group

theorem isTaken_append (first second : List FieldDescriptor) (group : Option Role) (name : String) :
    isTaken (first ++ second) group name = (isTaken first group name || isTaken second group name) :=
  List.any_append

theorem isTaken_singleton (field : FieldDescriptor) (group : Option Role) (name : String) :
    isTaken [field] group name = (field.isIn group && field.isNamed name) := by
  simp only [isTaken, List.any_cons, List.any_nil, Bool.or_false]

/-- Names that are matched are taken together. -/
theorem isTaken_congr {passed : List FieldDescriptor} {group : Option Role}
    {field : FieldDescriptor} {name : String} (named : field.isNamed name = true) :
    isTaken passed group field.name = isTaken passed group name := by
  unfold isTaken
  congr 1
  funext earlier
  rw [isNamed_name named]

/-- Two lists of passed fields take the same names in every group. -/
def TakeAlike (a b : List FieldDescriptor) : Prop :=
  ∀ group name, isTaken a group name = isTaken b group name

theorem TakeAlike.append {a b : List FieldDescriptor} (alike : TakeAlike a b)
    (more : List FieldDescriptor) : TakeAlike (a ++ more) (b ++ more) := by
  intro group name
  rw [isTaken_append, isTaken_append, alike]

theorem TakeAlike.isNew_eq {a b : List FieldDescriptor} (alike : TakeAlike a b)
    (field : FieldDescriptor) : field.isNew a = field.isNew b := by
  simp only [isNew, alike _ field.name]

/-- A field that is new in no group takes nothing that was not taken. -/
theorem takeAlike_of_not_isNew {passed : List FieldDescriptor} {field : FieldDescriptor}
    (old : field.isNew passed = false) : TakeAlike (passed ++ [field]) passed := by
  intro group name
  rw [isTaken_append, isTaken_singleton, Bool.or_eq_left_iff_imp, Bool.and_eq_true]
  rintro ⟨member, named⟩
  rw [← isTaken_congr named]
  exact isNew_eq_false_iff.1 old group member

end FieldDescriptor

open FieldDescriptor

/-- Extraction drops a field just when it is new in no group. -/
theorem admission_shadowed_iff {kept : List FieldDescriptor} {field : FieldDescriptor} :
    (∃ keeper, admission kept field = .shadowed keeper) ↔ field.isNew kept = false := by
  rw [isNew_eq_false_iff]
  constructor
  · rintro ⟨keeper, shadowed⟩ group member
    refine List.any_eq_true.2 ?_
    cases group with
    | none =>
      unfold admission at shadowed
      split at shadowed
      · cases shadowed
      · rename_i first others sameName
        have found : first ∈ kept.filter (·.isNamed field.name) := sameName ▸ List.mem_cons_self
        exact ⟨first, List.mem_filter.1 found⟩
    | some role =>
      obtain ⟨earlier, inKept, named, accepts⟩ := taken_of_shadowed shadowed member
      exact ⟨earlier, inKept, Bool.and_eq_true_iff.2 ⟨accepts, named⟩⟩
  · intro taken
    unfold admission
    split
    · rename_i unnamed
      obtain ⟨earlier, member, named⟩ := List.any_eq_true.1 (taken none rfl)
      exact absurd named (List.filter_eq_nil_iff.1 unnamed earlier member)
    · rename_i first others sameName
      have inRole : ∀ role : Role,
          (!role.accepts field || (first :: others).any role.accepts) = true := by
        intro role
        rw [← sameName, Bool.or_eq_true, Bool.not_eq_true']
        refine (Bool.eq_false_or_eq_true (role.accepts field)).symm.imp_right fun accepted => ?_
        obtain ⟨earlier, member, answers⟩ := List.any_eq_true.1 (taken (some role) accepted)
        obtain ⟨accepts, named⟩ := Bool.and_eq_true_iff.1 answers
        exact List.any_eq_true.2 ⟨earlier, List.mem_filter.2 ⟨member, named⟩, accepts⟩
      exact ⟨first, if_pos (Bool.and_eq_true_iff.2 ⟨inRole .setting, inRole .column⟩)⟩

/-- The fields that are new behind those passed and those before them. -/
def newFields (passed : List FieldDescriptor) : List FieldDescriptor → List FieldDescriptor
  | [] => []
  | field :: rest =>
    if field.isNew passed then field :: newFields (passed ++ [field]) rest
    else newFields (passed ++ [field]) rest

theorem newFields_congr {a b : List FieldDescriptor} (alike : TakeAlike a b)
    (fields : List FieldDescriptor) : newFields a fields = newFields b fields := by
  induction fields generalizing a b with
  | nil => rfl
  | cons field rest ih => rw [newFields, newFields, alike.isNew_eq, ih (alike.append [field])]

theorem newFields_sublist (passed fields : List FieldDescriptor) :
    (newFields passed fields).Sublist fields := by
  induction fields generalizing passed with
  | nil => exact .slnil
  | cons field rest ih =>
    rw [newFields]
    split
    · exact (ih (passed ++ [field])).cons_cons field
    · exact (ih (passed ++ [field])).cons field

theorem newFields_append (passed first second : List FieldDescriptor) :
    newFields passed (first ++ second) =
      newFields passed first ++ newFields (passed ++ first) second := by
  induction first generalizing passed with
  | nil => rw [List.append_nil]; rfl
  | cons field rest ih =>
    rw [List.cons_append, newFields, newFields, ih, ← List.append_cons]
    split
    · rfl
    · rfl

/-- Dropping what is not new takes no name less. -/
theorem takeAlike_newFields (passed fields : List FieldDescriptor) :
    TakeAlike (passed ++ newFields passed fields) (passed ++ fields) := by
  induction fields generalizing passed with
  | nil => exact fun _ _ => rfl
  | cons field rest ih =>
    rw [newFields]
    cases new : field.isNew passed with
    | true =>
      rw [if_pos rfl, List.append_cons, List.append_cons passed field rest]
      exact ih (passed ++ [field])
    | false =>
      rw [if_neg Bool.false_ne_true, newFields_congr (takeAlike_of_not_isNew new)]
      intro group name
      rw [ih passed, List.append_cons passed field rest]
      exact ((takeAlike_of_not_isNew new).append rest group name).symm

/-- A first pass behind fewer fields drops nothing that a second one would keep. -/
theorem newFields_newFields {outer inner : List FieldDescriptor}
    (covered : ∀ group name, isTaken inner group name = true → isTaken outer group name = true)
    (fields : List FieldDescriptor) :
    newFields outer (newFields inner fields) = newFields outer fields := by
  induction fields generalizing outer inner with
  | nil => rfl
  | cons field rest ih =>
    have coveredNext : ∀ group name, isTaken (inner ++ [field]) group name = true →
        isTaken (outer ++ [field]) group name = true := by
      intro group name
      rw [isTaken_append, isTaken_append, Bool.or_eq_true, Bool.or_eq_true]
      exact Or.imp_left (covered group name)
    rw [newFields]
    cases newInside : field.isNew inner with
    | true => rw [if_pos rfl, newFields, newFields, ih coveredNext]
    | false =>
      -- The outer pass does not see this field. It would have dropped it as well, and the
      -- field takes no name that is not taken, so the next fields fare alike.
      have old : field.isNew outer = false := by
        refine isNew_eq_false_iff.2 fun group member => ?_
        exact covered group field.name (isNew_eq_false_iff.1 newInside group member)
      have alike := takeAlike_of_not_isNew old
      rw [if_neg Bool.false_ne_true, newFields, old, if_neg Bool.false_ne_true,
        ← newFields_congr alike, ih coveredNext]

theorem keepFields_cons (typeName : String) (kept rest : List FieldDescriptor)
    (field : FieldDescriptor) :
    (keepFields typeName kept (field :: rest)).1 =
      (keepFields typeName (if field.isNew kept then kept ++ [field] else kept) rest).1 := by
  rw [keepFields]
  cases new : field.isNew kept with
  | false =>
    obtain ⟨keeper, shadowed⟩ := admission_shadowed_iff.2 new
    rw [shadowed]
    rfl
  | true =>
    cases outcome : admission kept field with
    | shadowed keeper => cases new.symm.trans (admission_shadowed_iff.1 ⟨keeper, outcome⟩)
    | first => rfl
    | differs => rfl

/-- Extraction adds to the fields kept already those that are new. What it has dropped
before takes no name that a kept field does not take. -/
theorem keepFields_eq (typeName : String) {kept passed : List FieldDescriptor}
    (alike : TakeAlike kept passed) (fields : List FieldDescriptor) :
    (keepFields typeName kept fields).1 = kept ++ newFields passed fields := by
  induction fields generalizing kept passed with
  | nil => exact (List.append_nil kept).symm
  | cons field rest ih =>
    have alikeNext := alike.append [field]
    rw [keepFields_cons, newFields, ← alike.isNew_eq field]
    cases new : field.isNew kept with
    | true => rw [if_pos rfl, if_pos rfl, ih alikeNext, ← List.append_cons]
    | false =>
      rw [if_neg Bool.false_ne_true, if_neg Bool.false_ne_true]
      refine ih fun group name => ?_
      rw [← alikeNext group name, takeAlike_of_not_isNew new group name]

namespace Declarations

/-- All fields that a type declares, itself or through the types it flattens, each with
the type that declares it. -/
def inlined (typeName : String) : Declarations → List FieldDescriptor
  | nil => []
  | field descriptor rest => { descriptor with declaredIn := typeName } :: inlined typeName rest
  | flatten innerName _ inner rest => inlined innerName inner ++ inlined typeName rest

/-- The declarations of one type followed by those of another. -/
def append : Declarations → Declarations → Declarations
  | nil, more => more
  | field descriptor rest, more => field descriptor (rest.append more)
  | flatten innerName constructible inner rest, more =>
    flatten innerName constructible inner (rest.append more)

theorem inlined_append (typeName : String) (first second : Declarations) :
    (first.append second).inlined typeName =
      first.inlined typeName ++ second.inlined typeName := by
  induction first with
  | nil => rfl
  | field descriptor rest ih => simp only [append, inlined, ih, List.cons_append]
  | flatten innerName constructible inner rest _ ih =>
    simp only [append, inlined, ih, List.append_assoc]

theorem ofCandidates_fields (typeName : String) (constructible : Bool)
    (candidates : List FieldDescriptor) :
    (Schema.ofCandidates typeName constructible candidates).1.fields = newFields [] candidates :=
  keepFields_eq typeName (fun _ _ => rfl) candidates

/-- Behind whatever has passed, the candidates bring the same new fields as all declared
fields do: what an inner schema has dropped would not have been new. -/
theorem newFields_candidates (passed : List FieldDescriptor) (typeName : String)
    (declared : Declarations) :
    newFields passed (declared.candidates typeName).1 =
      newFields passed (declared.inlined typeName) := by
  induction declared generalizing passed typeName with
  | nil => rfl
  | field descriptor rest ih => simp only [candidates, inlined, newFields, ih]
  | flatten innerName constructible inner rest innerIh restIh =>
    -- The inner schema is built behind nothing, and is filtered again behind `passed`.
    have spliced : (Schema.ofCandidates innerName constructible
        (inner.candidates innerName).1).1.fields = newFields [] (inner.inlined innerName) := by
      rw [ofCandidates_fields, innerIh]
    have sameNew : newFields passed (newFields [] (inner.inlined innerName)) =
        newFields passed (inner.inlined innerName) := by
      refine newFields_newFields ?_ _
      intro group name taken
      cases taken
    have alike : TakeAlike (passed ++ newFields [] (inner.inlined innerName))
        (passed ++ inner.inlined innerName) := by
      intro group name
      rw [isTaken_append, isTaken_append]
      exact congrArg _ (takeAlike_newFields [] (inner.inlined innerName) group name)
    simp only [candidates, inlined, spliced, newFields_append, restIh, sameNew]
    rw [newFields_congr alike]

theorem extract_fields (typeName : String) (constructible : Bool) (declared : Declarations) :
    (declared.extract typeName constructible).1.fields =
      newFields [] (declared.inlined typeName) :=
  (ofCandidates_fields typeName constructible _).trans (declared.newFields_candidates [] typeName)

/-- The schema of a type that flattens others, whose own schemas are built first, has the
fields that one pass over all declared fields keeps. So it does not matter how fields are
grouped: a type that flattens another may be flattened as a whole, or in pieces with the
other one between them. A type that only flattens another has the other's fields. -/
theorem extract_fields_of_inlined (typeName : String) (constructible : Bool) :
    (∀ declared : Declarations,
      (declared.extract typeName constructible).1.fields =
        (Schema.ofCandidates typeName constructible (declared.inlined typeName)).1.fields) ∧
    (∀ (before front inner back after : Declarations) (outerName innerName : String)
        (outerFlag innerFlag : Bool),
      ((before.append (.flatten outerName outerFlag
          (front.append (.flatten innerName innerFlag inner back)) after)).extract
            typeName constructible).1.fields =
        ((before.append (.flatten outerName outerFlag front (.flatten innerName innerFlag inner
          (.flatten outerName outerFlag back after)))).extract typeName constructible).1.fields) ∧
    (∀ (inner : Declarations) (innerName : String) (innerFlag : Bool),
      ((flatten innerName innerFlag inner nil).extract typeName constructible).1.fields =
        (inner.extract innerName innerFlag).1.fields) := by
  refine ⟨?_, ?_, ?_⟩
  · intro declared
    rw [extract_fields, ofCandidates_fields]
  · intro before front inner back after outerName innerName outerFlag innerFlag
    simp only [extract_fields, inlined_append, inlined, List.append_assoc]
  · intro inner innerName innerFlag
    rw [extract_fields, extract_fields, inlined, inlined, List.append_nil]

end Declarations

end RecordBinding
