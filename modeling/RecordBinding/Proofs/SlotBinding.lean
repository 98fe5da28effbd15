import RecordBinding.Proofs.Slots

namespace RecordBinding.Fields

open Position

/-- Binding as it happens to a record in place: the record as the binding leaves
it, and the outcome. Nothing takes back what was written before a failure. -/
def bindInPlaceFrom (start : Nat) : (fields : Fields) → Nat → Value → fields.Instance →
    fields.Instance × Except Error Unit
  | nil, _, _, record => (record, .ok ())
  | leaf field rest, slot, v, (x, others) =>
    if field.access.isColumn then
      if slot = start then
        match field.type.coerce v with
        | .ok y => ((y, others), .ok ())
        | .error e => ((x, others), .error (e.within (.column field.name)))
      else
        let (others, outcome) := bindInPlaceFrom (start + 1) rest slot v others
        ((x, others), outcome)
    else
      let (others, outcome) := bindInPlaceFrom start rest slot v others
      ((x, others), outcome)
  | flatten _ _ inner rest, slot, v, (record, others) =>
    if start ≤ slot ∧ slot < start + inner.columns then
      let (record, outcome) := bindInPlaceFrom 0 inner (slot - start) v record
      ((record, others), outcome)
    else
      let (others, outcome) := bindInPlaceFrom (start + inner.columns) rest slot v others
      ((record, others), outcome)

def bindInPlace (fields : Fields) (slot : Nat) (v : Value) (record : fields.Instance) :
    fields.Instance × Except Error Unit :=
  fields.bindInPlaceFrom 0 slot v record

/-- Binding yields the record that binding in place leaves behind, if it succeeds. -/
theorem bindFrom_eq_inPlace (start : Nat) (fields : Fields) (slot : Nat) (v : Value)
    (record : fields.Instance) :
    fields.bindFrom start slot v record =
      (fields.bindInPlaceFrom start slot v record).2.map
        fun _ => (fields.bindInPlaceFrom start slot v record).1 := by
  induction fields generalizing start slot with
  | nil => rfl
  | leaf field rest ih =>
    obtain ⟨x, others⟩ := record
    rw [bindFrom, bindInPlaceFrom]
    by_cases column : field.access.isColumn = true
    · rw [if_pos column, if_pos column]
      by_cases here : slot = start
      · rw [if_pos here, if_pos here]
        cases field.type.coerce v <;> rfl
      · rw [if_neg here, if_neg here, ih]
        cases (bindInPlaceFrom (start + 1) rest slot v others).2 <;> rfl
    · rw [if_neg column, if_neg column, ih]
      cases (bindInPlaceFrom start rest slot v others).2 <;> rfl
  | flatten ident typeName inner rest innerIh restIh =>
    obtain ⟨record, others⟩ := record
    rw [bindFrom, bindInPlaceFrom]
    by_cases within : start ≤ slot ∧ slot < start + inner.columns
    · rw [if_pos within, if_pos within, innerIh]
      cases (bindInPlaceFrom 0 inner (slot - start) v record).2 <;> rfl
    · rw [if_neg within, if_neg within, restIh]
      cases (bindInPlaceFrom (start + inner.columns) rest slot v others).2 <;> rfl

theorem bindColumn_eq_inPlace (fields : Fields) (slot : Nat) (v : Value) (record : fields.Instance) :
    fields.bindColumn slot v record =
      (fields.bindInPlace slot v record).2.map fun _ => (fields.bindInPlace slot v record).1 :=
  fields.bindFrom_eq_inPlace 0 slot v record

/-- A leaf takes a value strictly: it holds the converted value, or nothing has
changed and the error names the leaf. -/
def Position.take {fields : Fields} (p : Position fields) (v : Value) (record : fields.Instance) :
    fields.Instance × Except Error Unit :=
  match p.leaf.type.coerce v with
  | .ok x => (p.set x record, .ok ())
  | .error e => (record, .error (e.within (.column p.leaf.name)))

theorem take_of_ok {fields : Fields} {p : Position fields} {v : Value} {x : p.leaf.type.Carrier}
    (converts : p.leaf.type.coerce v = .ok x) (record : fields.Instance) :
    p.take v record = (p.set x record, .ok ()) := by
  rw [take, converts]

theorem take_of_error {fields : Fields} {p : Position fields} {v : Value} {e : Error}
    (fails : p.leaf.type.coerce v = .error e) (record : fields.Instance) :
    p.take v record = (record, .error (e.within (.column p.leaf.name))) := by
  rw [take, fails]

theorem take_later {field : Leaf} {rest : Fields} (p : Position rest) (v : Value)
    (x : field.type.Carrier) (others : rest.Instance) :
    (later p : Position (leaf field rest)).take v (x, others) =
      ((x, (p.take v others).1), (p.take v others).2) := by
  dsimp only [take, leaf_later]
  cases p.leaf.type.coerce v <;> rfl

theorem take_inside {ident typeName : String} {inner rest : Fields} (p : Position inner)
    (v : Value) (record : inner.Instance) (others : rest.Instance) :
    (inside p : Position (flatten ident typeName inner rest)).take v (record, others) =
      (((p.take v record).1, others), (p.take v record).2) := by
  dsimp only [take, leaf_inside]
  cases p.leaf.type.coerce v <;> rfl

theorem take_after {ident typeName : String} {inner rest : Fields} (p : Position rest)
    (v : Value) (record : inner.Instance) (others : rest.Instance) :
    (after p : Position (flatten ident typeName inner rest)).take v (record, others) =
      ((record, (p.take v others).1), (p.take v others).2) := by
  dsimp only [take, leaf_after]
  cases p.leaf.type.coerce v <;> rfl

/-- The leaf that owns the slot takes the value. The slots are counted from the
start of these fields, wherever that lies in the record around them. -/
theorem bindInPlaceFrom_eq (start : Nat) (fields : Fields) (slot : Nat) (v : Value)
    (record : fields.Instance) :
    fields.bindInPlaceFrom start (start + slot) v record =
      match fields.owner? slot with
      | some p => p.take v record
      | none => (record, .ok ()) := by
  induction fields generalizing start slot with
  | nil => rfl
  | leaf field rest ih =>
    obtain ⟨x, others⟩ := record
    rw [bindInPlaceFrom, owner?, columnPositions_leaf]
    by_cases column : field.access.isColumn = true
    · rw [if_pos column, if_pos column]
      cases slot with
      | zero =>
        rw [if_pos (Nat.add_zero start)]
        dsimp only [List.getElem?_cons_zero, take, leaf_here]
        cases field.type.coerce v <;> rfl
      | succ slot =>
        rw [if_neg (by omega), show start + (slot + 1) = start + 1 + slot by omega, ih,
          List.getElem?_cons_succ, List.getElem?_map, owner?]
        cases rest.columnPositions[slot]? with
        | none => rfl
        | some p => exact (take_later p v x others).symm
    · rw [if_neg column, if_neg column, ih, List.getElem?_map, owner?]
      cases rest.columnPositions[slot]? with
      | none => rfl
      | some p => exact (take_later p v x others).symm
  | flatten ident typeName inner rest innerIh restIh =>
    obtain ⟨record, others⟩ := record
    rw [bindInPlaceFrom]
    by_cases within : slot < inner.columns
    · have fromStart : start + slot - start = 0 + slot := by omega
      rw [if_pos (by omega), owner?_flatten_inside within, fromStart, innerIh]
      cases inner.owner? slot with
      | none => rfl
      | some p => exact (take_inside p v record others).symm
    · obtain ⟨beyond, rfl⟩ := Nat.exists_eq_add_of_le (Nat.le_of_not_lt within)
      rw [if_neg (by omega), owner?_flatten_after, ← Nat.add_assoc, restIh]
      cases rest.owner? beyond with
      | none => rfl
      | some p => exact (take_after p v record others).symm

theorem bindInPlace_eq (fields : Fields) (slot : Nat) (v : Value) (record : fields.Instance) :
    fields.bindInPlace slot v record =
      match fields.owner? slot with
      | some p => p.take v record
      | none => (record, .ok ()) := by
  have counted := fields.bindInPlaceFrom_eq 0 slot v record
  rwa [Nat.zero_add] at counted

theorem bindInPlace_of_ok {fields : Fields} {slot : Nat} {p : Position fields} {v : Value}
    {x : p.leaf.type.Carrier} (owned : fields.owner? slot = some p)
    (converts : p.leaf.type.coerce v = .ok x) (record : fields.Instance) :
    fields.bindInPlace slot v record = (p.set x record, .ok ()) := by
  rw [bindInPlace_eq, owned]
  exact take_of_ok converts record

/-- A failed binding leaves the whole record as it was. -/
theorem bindInPlace_of_error {fields : Fields} {slot : Nat} {p : Position fields} {v : Value}
    {e : Error} (owned : fields.owner? slot = some p) (fails : p.leaf.type.coerce v = .error e)
    (record : fields.Instance) :
    fields.bindInPlace slot v record = (record, .error (e.within (.column p.leaf.name))) := by
  rw [bindInPlace_eq, owned]
  exact take_of_error fails record

theorem bindInPlace_of_unowned {fields : Fields} {slot : Nat} (beyond : fields.columns ≤ slot)
    (v : Value) (record : fields.Instance) : fields.bindInPlace slot v record = (record, .ok ()) := by
  rw [bindInPlace_eq, owner?_eq_none_iff.2 beyond]

theorem bindColumn_of_ok {fields : Fields} {slot : Nat} {p : Position fields} {v : Value}
    {x : p.leaf.type.Carrier} (owned : fields.owner? slot = some p)
    (converts : p.leaf.type.coerce v = .ok x) (record : fields.Instance) :
    fields.bindColumn slot v record = .ok (p.set x record) := by
  rw [bindColumn_eq_inPlace, bindInPlace_of_ok owned converts]
  rfl

theorem bindColumn_of_error {fields : Fields} {slot : Nat} {p : Position fields} {v : Value}
    {e : Error} (owned : fields.owner? slot = some p) (fails : p.leaf.type.coerce v = .error e)
    (record : fields.Instance) :
    fields.bindColumn slot v record = .error (e.within (.column p.leaf.name)) := by
  rw [bindColumn_eq_inPlace, bindInPlace_of_error owned fails]
  rfl

/-- Binding to the slot gives the converted value to this leaf alone, and fails with
the leaf's name if the value does not convert. -/
def BindsOnly (fields : Fields) (slot : Nat) (p : Position fields) : Prop :=
  ∀ v record,
    (∀ x, p.leaf.type.coerce v = .ok x →
      ∃ after, fields.bindColumn slot v record = .ok after ∧ p.Assigns x record after) ∧
    ∀ e, p.leaf.type.coerce v = .error e →
      fields.bindColumn slot v record = .error (e.within (.column p.leaf.name))

theorem bindsOnly_of_owner? {fields : Fields} {slot : Nat} {p : Position fields}
    (owned : fields.owner? slot = some p) : fields.BindsOnly slot p := by
  intro v record
  constructor
  · intro x converts
    exact ⟨p.set x record, bindColumn_of_ok owned converts record, p.assigns_set x record⟩
  · intro e fails
    exact bindColumn_of_error owned fails record

/-- The slots below the number of columns belong to the column leaves one to one and
in declaration order, whether or not a name reaches the leaf. Binding to a slot
touches its owner alone, and nothing at all if it fails or the slot has no owner. A
name resolves to the first slot whose owner has it. -/
theorem slots_partition_columns (fields : Fields) :
    (∀ slot, (∃ p, fields.owner? slot = some p) ↔ slot < fields.columns) ∧
    (∀ slot p, fields.owner? slot = some p → p.leaf.access.isColumn = true) ∧
    (∀ p : Position fields, p.leaf.access.isColumn = true → ∃! slot, fields.owner? slot = some p) ∧
    (∀ i j p q, fields.owner? i = some p → fields.owner? j = some q → i < j → p.Precedes q) ∧
    (∀ slot v record, fields.bindColumn slot v record =
      (fields.bindInPlace slot v record).2.map fun _ => (fields.bindInPlace slot v record).1) ∧
    (∀ slot p v x record, fields.owner? slot = some p → p.leaf.type.coerce v = .ok x →
      (fields.bindInPlace slot v record).2 = .ok () ∧
        p.Assigns x record (fields.bindInPlace slot v record).1) ∧
    (∀ slot p v e record, fields.owner? slot = some p → p.leaf.type.coerce v = .error e →
      fields.bindInPlace slot v record = (record, .error (e.within (.column p.leaf.name)))) ∧
    (∀ slot v record, fields.columns ≤ slot → fields.bindInPlace slot v record = (record, .ok ())) ∧
    (∀ name slot, fields.resolveColumn name = some slot → slot < fields.columns ∧
      (∃ p, fields.owner? slot = some p ∧ p.isNamed name = true) ∧
        ∀ earlier q, earlier < slot → fields.owner? earlier = some q → q.isNamed name = false) ∧
    (∀ name, fields.resolveColumn name = none ↔
      ∀ p : Position fields, p.leaf.access.isColumn = true → p.isNamed name = false) := by
  refine ⟨fun _ => owner?_exists_iff, fun _ _ => isColumn_of_owner?, fun _ => owner?_exists_unique,
    fun _ _ _ _ => precedes_of_owner?, fields.bindColumn_eq_inPlace, ?_, ?_, ?_, ?_,
    fun _ => resolveColumn_eq_none_iff⟩
  · intro slot p v x record owned converts
    rw [bindInPlace_of_ok owned converts]
    exact ⟨rfl, p.assigns_set x record⟩
  · intro slot p v e record owned fails
    exact bindInPlace_of_error owned fails record
  · intro slot v record beyond
    exact bindInPlace_of_unowned beyond v record
  · intro name slot resolved
    exact ⟨resolveColumn_lt resolved, resolveColumn_first resolved⟩

end RecordBinding.Fields
