import RecordBinding.Proofs.Position
import RecordBinding.Record.Setting

namespace RecordBinding

/-- The two ways in which a name reaches a field: to set it, or to bind a column
to it. Each has its own idea of which fields there are. -/
inductive Role
  | setting | column
  deriving DecidableEq

def Role.admits : Role → Access → Bool
  | setting => Access.isSettable
  | column => Access.isColumn

namespace Fields

open Position

/-- The leaf takes part in the role and has the name. -/
def Position.answers {fields : Fields} (role : Role) (name : String) (p : Position fields) : Bool :=
  role.admits p.leaf.access && eqIgnoreCase name p.leaf.name

theorem answers_here (role : Role) (name : String) (field : Leaf) (rest : Fields) :
    (here : Position (leaf field rest)).answers role name =
      (role.admits field.access && eqIgnoreCase name field.name) := rfl

/-- The first leaf in flattened declaration order that a name reaches. -/
def reached? (fields : Fields) (role : Role) (name : String) : Option (Position fields) :=
  fields.positions.find? (·.answers role name)

theorem reached?_leaf (field : Leaf) (rest : Fields) (role : Role) (name : String) :
    (leaf field rest).reached? role name =
      if role.admits field.access && eqIgnoreCase name field.name then some here
      else (rest.reached? role name).map later := by
  simp only [reached?, positions, List.find?_cons, List.find?_map, answers_here]
  cases role.admits field.access && eqIgnoreCase name field.name <;> rfl

/-- A flattened record is asked before the fields after it. -/
theorem reached?_flatten (ident typeName : String) (inner rest : Fields) (role : Role)
    (name : String) :
    (flatten ident typeName inner rest).reached? role name =
      ((inner.reached? role name).map inside).or ((rest.reached? role name).map after) := by
  simp only [reached?, positions, List.find?_append, List.find?_map]
  rfl

/-- The leaf answers to the name, and no leaf before it does. -/
def Position.IsFirst {fields : Fields} (role : Role) (name : String) (p : Position fields) : Prop :=
  p.answers role name = true ∧ ∀ q : Position fields, q.Precedes p → q.answers role name = false

theorem isFirst_of_reached? {fields : Fields} {role : Role} {name : String} {p : Position fields}
    (reach : fields.reached? role name = some p) : p.IsFirst role name := by
  obtain ⟨answers, passed, rest, order, silent⟩ := List.find?_eq_some_iff_append.1 reach
  refine ⟨answers, fun q before => ?_⟩
  have sorted := fields.positions_pairwise
  have member := mem_positions q
  rw [order] at sorted member
  have after := List.pairwise_cons.1 (List.pairwise_append.1 sorted).2.1
  rcases List.mem_append.1 member with inPassed | inRest
  · simpa using silent q inPassed
  · rcases List.mem_cons.1 inRest with rfl | inRest
    · exact absurd before before.asymm
    · exact absurd before (after.1 q inRest).asymm

/-- A name has one first leaf in a role at most. -/
theorem Position.IsFirst.unique {fields : Fields} {role : Role} {name : String}
    {p q : Position fields} (first : p.IsFirst role name) (second : q.IsFirst role name) :
    p = q := by
  rcases precedes_trichotomy p q with before | same | before
  · cases first.1.symm.trans (second.2 p before)
  · exact same
  · cases second.1.symm.trans (first.2 q before)

theorem reached?_eq_none_iff {fields : Fields} {role : Role} {name : String} :
    fields.reached? role name = none ↔ ∀ p : Position fields, p.answers role name = false := by
  simp only [reached?, List.find?_eq_none, mem_positions, forall_const, Bool.not_eq_true]

theorem reached?_eq_some_iff {fields : Fields} {role : Role} {name : String} {p : Position fields} :
    fields.reached? role name = some p ↔ p.IsFirst role name := by
  refine ⟨isFirst_of_reached?, fun first => ?_⟩
  cases reach : fields.reached? role name with
  | none => cases first.1.symm.trans (reached?_eq_none_iff.1 reach p)
  | some q => rw [(isFirst_of_reached? reach).unique first]

/-- Setting by name in one step: the first settable leaf with the name takes the
value, or there is none and the value comes back. -/
theorem setField_eq (fields : Fields) (name : String) (v : Value) (record : fields.Instance) :
    fields.setField name v record =
      match fields.reached? .setting name with
      | some p => (p.set (p.leaf.type.coerceOrDefault v) record, none)
      | none => (record, some v) := by
  induction fields with
  | nil => rfl
  | leaf field rest ih =>
    obtain ⟨x, others⟩ := record
    rw [reached?_leaf]
    by_cases first : (Role.setting.admits field.access && eqIgnoreCase name field.name) = true
    · have taken : (field.access.isSettable && eqIgnoreCase name field.name) = true := first
      simp only [setField, if_pos taken, if_pos first]
      rfl
    · have passed : ¬(field.access.isSettable && eqIgnoreCase name field.name) = true := first
      simp only [setField, if_neg passed, if_neg first, ih others]
      cases rest.reached? .setting name <;> rfl
  | flatten ident typeName inner rest innerIh restIh =>
    obtain ⟨record, others⟩ := record
    rw [reached?_flatten]
    simp only [setField, innerIh record]
    cases inner.reached? .setting name with
    | some p => rfl
    | none =>
      simp only [restIh others]
      cases rest.reached? .setting name <;> rfl

/-- Setting by the name succeeds, whatever the value, and touches this leaf alone. -/
def SetsOnly (fields : Fields) (name : String) (p : Position fields) : Prop :=
  ∀ v record, (fields.setField name v record).2 = none ∧
    p.Assigns (p.leaf.type.coerceOrDefault v) record (fields.setField name v record).1

theorem setsOnly_of_reached? {fields : Fields} {name : String} {p : Position fields}
    (reach : fields.reached? .setting name = some p) : fields.SetsOnly name p := by
  intro v record
  rw [setField_eq, reach]
  exact ⟨rfl, p.assigns_set _ record⟩

theorem setField_isSet_iff (fields : Fields) (name : String) (v : Value) (record : fields.Instance) :
    (fields.setField name v record).2 = none ↔ ∃ p, fields.reached? .setting name = some p := by
  rw [setField_eq]
  cases fields.reached? .setting name with
  | none => exact iff_of_false nofun nofun
  | some p => exact iff_of_true rfl ⟨p, rfl⟩

end Fields

end RecordBinding
