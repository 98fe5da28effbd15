import Mathlib.Logic.ExistsUnique
import RecordBinding.Proofs.Reaching
import RecordBinding.Record.Columns

namespace RecordBinding.Fields

open Position

/-- The column leaves in flattened declaration order, those included that share
their name with an earlier one. -/
def columnPositions (fields : Fields) : List (Position fields) :=
  fields.positions.filter (·.leaf.access.isColumn)

/-- The leaf that a slot belongs to. -/
def owner? (fields : Fields) (slot : Nat) : Option (Position fields) := fields.columnPositions[slot]?

theorem columnPositions_leaf (field : Leaf) (rest : Fields) :
    (leaf field rest).columnPositions =
      if field.access.isColumn then here :: rest.columnPositions.map later
      else rest.columnPositions.map later := by
  simp only [columnPositions, positions, List.filter_cons, List.filter_map, Position.leaf]
  rfl

theorem columnPositions_flatten (ident typeName : String) (inner rest : Fields) :
    (flatten ident typeName inner rest).columnPositions =
      inner.columnPositions.map inside ++ rest.columnPositions.map after := by
  simp only [columnPositions, positions, List.filter_append, List.filter_map]
  rfl

theorem length_columnPositions (fields : Fields) : fields.columnPositions.length = fields.columns := by
  induction fields with
  | nil => rfl
  | leaf field rest ih =>
    rw [columnPositions_leaf, columns]
    split
    · rw [List.length_cons, List.length_map, ih, Nat.add_comm]
    · rw [List.length_map, ih, Nat.zero_add]
  | flatten ident typeName inner rest innerIh restIh =>
    rw [columnPositions_flatten, List.length_append, List.length_map, List.length_map, innerIh,
      restIh, columns]

theorem mem_columnPositions {fields : Fields} {p : Position fields} :
    p ∈ fields.columnPositions ↔ p.leaf.access.isColumn = true :=
  List.mem_filter.trans (and_iff_right (mem_positions p))

theorem columnPositions_pairwise (fields : Fields) : fields.columnPositions.Pairwise Precedes :=
  fields.positions_pairwise.filter _

theorem owner?_exists_iff {fields : Fields} {slot : Nat} :
    (∃ p, fields.owner? slot = some p) ↔ slot < fields.columns := by
  rw [← length_columnPositions]
  constructor
  · rintro ⟨p, owned⟩
    exact (List.getElem?_eq_some_iff.1 owned).1
  · intro bound
    exact ⟨_, List.getElem?_eq_getElem bound⟩

theorem owner?_eq_none_iff {fields : Fields} {slot : Nat} :
    fields.owner? slot = none ↔ fields.columns ≤ slot := by
  rw [← length_columnPositions, owner?, List.getElem?_eq_none_iff]

theorem isColumn_of_owner? {fields : Fields} {slot : Nat} {p : Position fields}
    (owned : fields.owner? slot = some p) : p.leaf.access.isColumn = true :=
  mem_columnPositions.1 (List.mem_of_getElem? owned)

/-- Slots count the column leaves in declaration order. -/
theorem precedes_of_owner? {fields : Fields} {i j : Nat} {p q : Position fields}
    (first : fields.owner? i = some p) (second : fields.owner? j = some q) (lower : i < j) :
    p.Precedes q := by
  obtain ⟨firstBound, rfl⟩ := List.getElem?_eq_some_iff.1 first
  obtain ⟨secondBound, rfl⟩ := List.getElem?_eq_some_iff.1 second
  exact List.pairwise_iff_getElem.1 fields.columnPositions_pairwise i j firstBound secondBound lower

/-- Every column leaf has a slot, and no two slots are the same leaf's. -/
theorem owner?_exists_unique {fields : Fields} {p : Position fields}
    (column : p.leaf.access.isColumn = true) : ∃! slot, fields.owner? slot = some p := by
  obtain ⟨slot, bound, atSlot⟩ := List.mem_iff_getElem.1 (mem_columnPositions.2 column)
  have owned : fields.owner? slot = some p := List.getElem?_eq_some_iff.2 ⟨bound, atSlot⟩
  refine ⟨slot, owned, ?_⟩
  intro other otherOwned
  rcases Nat.lt_trichotomy other slot with lower | same | higher
  · exact absurd rfl (precedes_of_owner? otherOwned owned lower).ne
  · exact same
  · exact absurd rfl (precedes_of_owner? owned otherOwned higher).ne

theorem owner?_flatten_inside {ident typeName : String} {inner rest : Fields} {slot : Nat}
    (within : slot < inner.columns) :
    (flatten ident typeName inner rest).owner? slot = (inner.owner? slot).map inside := by
  have bound : slot < (inner.columnPositions.map (@inside ident typeName inner rest)).length := by
    rwa [List.length_map, length_columnPositions]
  rw [owner?, columnPositions_flatten, List.getElem?_append_left bound, List.getElem?_map]
  rfl

theorem owner?_flatten_after (ident typeName : String) (inner rest : Fields) (slot : Nat) :
    (flatten ident typeName inner rest).owner? (inner.columns + slot) =
      (rest.owner? slot).map after := by
  have base : (inner.columnPositions.map (@inside ident typeName inner rest)).length =
      inner.columns := by
    rw [List.length_map, length_columnPositions]
  rw [owner?, columnPositions_flatten, List.getElem?_append_right (by omega), List.getElem?_map,
    base, Nat.add_sub_cancel_left]
  rfl

/-- The leaf has the name, whichever role it takes part in. -/
def Position.isNamed {fields : Fields} (name : String) (p : Position fields) : Bool :=
  eqIgnoreCase name p.leaf.name

theorem resolveFrom_eq (start : Nat) (fields : Fields) (name : String) :
    resolveFrom start fields name =
      (fields.columnPositions.findIdx? (·.isNamed name)).map (start + ·) := by
  induction fields generalizing start with
  | nil => rfl
  | leaf field rest ih =>
    rw [columnPositions_leaf, resolveFrom]
    have named : (fun p : Position rest => p.isNamed name) =
        (fun p : Position (leaf field rest) => p.isNamed name) ∘ later := rfl
    by_cases column : field.access.isColumn = true
    · rw [if_pos column, if_pos column, List.findIdx?_cons, List.findIdx?_map, ← named, ih]
      by_cases first : eqIgnoreCase name field.name = true
      · have found : (here : Position (leaf field rest)).isNamed name = true := first
        rw [if_pos first, if_pos found]
        rfl
      · have passed : ¬(here : Position (leaf field rest)).isNamed name = true := first
        rw [if_neg first, if_neg passed, Option.map_map]
        congr 1
        funext slot
        simp only [Function.comp_apply]
        omega
    · rw [if_neg column, if_neg column, List.findIdx?_map, ← named, ih]
  | flatten ident typeName inner rest innerIh restIh =>
    rw [columnPositions_flatten, resolveFrom, List.findIdx?_append, List.findIdx?_map,
      List.findIdx?_map, List.length_map, length_columnPositions, innerIh, restIh]
    have named : (fun p : Position inner => p.isNamed name) =
        (fun p : Position (flatten ident typeName inner rest) => p.isNamed name) ∘ inside := rfl
    have namedAfter : (fun p : Position rest => p.isNamed name) =
        (fun p : Position (flatten ident typeName inner rest) => p.isNamed name) ∘ after := rfl
    rw [← named, ← namedAfter]
    cases inner.columnPositions.findIdx? (·.isNamed name) with
    | some slot => simp only [Option.map_some, Option.some_or, Nat.zero_add]
    | none =>
      simp only [Option.map_none, Option.none_or, Option.map_map]
      congr 1
      funext slot
      simp only [Function.comp_apply]
      omega

/-- A name resolves to the place of the first column leaf with that name. -/
theorem resolveColumn_eq (fields : Fields) (name : String) :
    fields.resolveColumn name = fields.columnPositions.findIdx? (·.isNamed name) := by
  simp only [resolveColumn, resolveFrom_eq, Nat.zero_add, Option.map_id']

theorem resolveColumn_lt {fields : Fields} {name : String} {slot : Nat}
    (resolved : fields.resolveColumn name = some slot) : slot < fields.columns := by
  rw [resolveColumn_eq] at resolved
  obtain ⟨bound, _⟩ := List.findIdx?_eq_some_iff_getElem.1 resolved
  rwa [length_columnPositions] at bound

/-- The owner of the slot that a name resolves to has the name, and no owner of an
earlier slot has it. -/
theorem resolveColumn_first {fields : Fields} {name : String} {slot : Nat}
    (resolved : fields.resolveColumn name = some slot) :
    (∃ p, fields.owner? slot = some p ∧ p.isNamed name = true) ∧
      ∀ earlier q, earlier < slot → fields.owner? earlier = some q → q.isNamed name = false := by
  rw [resolveColumn_eq] at resolved
  obtain ⟨bound, named, unnamed⟩ := List.findIdx?_eq_some_iff_getElem.1 resolved
  refine ⟨⟨_, List.getElem?_eq_getElem bound, named⟩, ?_⟩
  intro earlier q lower owned
  obtain ⟨_, rfl⟩ := List.getElem?_eq_some_iff.1 owned
  exact Bool.not_eq_true _ ▸ unnamed earlier lower

theorem resolveColumn_eq_none_iff {fields : Fields} {name : String} :
    fields.resolveColumn name = none ↔
      ∀ p : Position fields, p.leaf.access.isColumn = true → p.isNamed name = false := by
  simp only [resolveColumn_eq, List.findIdx?_eq_none_iff, mem_columnPositions]

/-- Resolving to a slot and asking for its owner is reaching a leaf by name. -/
theorem resolveColumn_bind_owner? (fields : Fields) (name : String) :
    (fields.resolveColumn name).bind fields.owner? = fields.reached? .column name := by
  have same : fields.reached? .column name = fields.columnPositions.find? (·.isNamed name) := by
    rw [columnPositions, List.find?_filter, reached?]
    congr 1
    funext p
    rw [Bool.eq_iff_iff, decide_eq_true_iff]
    exact Bool.and_eq_true_iff
  rw [same, List.find?_eq_bind_findIdx?_getElem?, resolveColumn_eq]
  rfl

theorem resolveColumn_exists_iff {fields : Fields} {name : String} :
    (∃ slot, fields.resolveColumn name = some slot) ↔ ∃ p, fields.reached? .column name = some p := by
  rw [← resolveColumn_bind_owner?]
  constructor
  · rintro ⟨slot, resolved⟩
    rw [resolved]
    exact owner?_exists_iff.2 (resolveColumn_lt resolved)
  · rintro ⟨p, reach⟩
    obtain ⟨slot, resolved, _⟩ := Option.bind_eq_some_iff.1 reach
    exact ⟨slot, resolved⟩

theorem owner?_of_resolveColumn {fields : Fields} {name : String} {slot : Nat}
    (resolved : fields.resolveColumn name = some slot) :
    fields.owner? slot = fields.reached? .column name := by
  rw [← resolveColumn_bind_owner?, resolved]
  rfl

end RecordBinding.Fields
