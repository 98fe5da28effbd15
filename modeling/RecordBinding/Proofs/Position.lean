import RecordBinding.Record.Fields

namespace RecordBinding.Fields

/-- One leaf of the flattening tree, given by the way that leads to it. The same
type may be flattened more than once, so a leaf is more than what it declares. -/
inductive Position : Fields → Type
  | here {field rest} : Position (.leaf field rest)
  | later {field rest} (p : Position rest) : Position (.leaf field rest)
  | inside {ident typeName inner rest} (p : Position inner) :
      Position (.flatten ident typeName inner rest)
  | after {ident typeName inner rest} (p : Position rest) :
      Position (.flatten ident typeName inner rest)
  deriving DecidableEq

namespace Position

/-- What the leaf declares. -/
def leaf : {fields : Fields} → Position fields → Leaf
  | .leaf field _, here => field
  | .leaf _ _, later p => p.leaf
  | .flatten .., inside p => p.leaf
  | .flatten .., after p => p.leaf

@[simp] theorem leaf_here {field : Leaf} {rest : Fields} :
    (here : Position (.leaf field rest)).leaf = field := rfl

@[simp] theorem leaf_later {field : Leaf} {rest : Fields} (p : Position rest) :
    (later p : Position (.leaf field rest)).leaf = p.leaf := rfl

@[simp] theorem leaf_inside {ident typeName : String} {inner rest : Fields} (p : Position inner) :
    (inside p : Position (.flatten ident typeName inner rest)).leaf = p.leaf := rfl

@[simp] theorem leaf_after {ident typeName : String} {inner rest : Fields} (p : Position rest) :
    (after p : Position (.flatten ident typeName inner rest)).leaf = p.leaf := rfl

/-- The name of the type that declares the leaf. -/
def declaringType (typeName : String) : {fields : Fields} → Position fields → String
  | .leaf _ _, here => typeName
  | .leaf _ _, later p => p.declaringType typeName
  | .flatten _ innerName _ _, inside p => p.declaringType innerName
  | .flatten .., after p => p.declaringType typeName

/-- What a record holds at the leaf. -/
def get : {fields : Fields} → (p : Position fields) → fields.Instance → p.leaf.type.Carrier
  | .leaf _ _, here, (x, _) => x
  | .leaf _ _, later p, (_, others) => p.get others
  | .flatten .., inside p, (record, _) => p.get record
  | .flatten .., after p, (_, others) => p.get others

/-- The record with another datum at the leaf. -/
def set : {fields : Fields} → (p : Position fields) → p.leaf.type.Carrier → fields.Instance →
    fields.Instance
  | .leaf _ _, here, x, (_, others) => (x, others)
  | .leaf _ _, later p, x, (y, others) => (y, p.set x others)
  | .flatten .., inside p, x, (record, others) => (p.set x record, others)
  | .flatten .., after p, x, (record, others) => (record, p.set x others)

theorem get_set_self {fields : Fields} (p : Position fields) (x : p.leaf.type.Carrier)
    (record : fields.Instance) : p.get (p.set x record) = x := by
  induction p with
  | here => rfl
  | later p ih => exact ih x record.2
  | inside p ih => exact ih x record.1
  | after p ih => exact ih x record.2

theorem get_set_of_ne {fields : Fields} {p q : Position fields} (other : q ≠ p)
    (x : p.leaf.type.Carrier) (record : fields.Instance) : q.get (p.set x record) = q.get record := by
  induction p with
  | here =>
    cases q with
    | here => exact absurd rfl other
    | later q => rfl
  | later p ih =>
    cases q with
    | here => rfl
    | later q => exact ih (fun same => other (congrArg later same)) x record.2
  | inside p ih =>
    cases q with
    | inside q => exact ih (fun same => other (congrArg inside same)) x record.1
    | after q => rfl
  | after p ih =>
    cases q with
    | inside q => rfl
    | after q => exact ih (fun same => other (congrArg after same)) x record.2

/-- A record is what it holds at its leaves. -/
theorem ext_get {fields : Fields} {a b : fields.Instance}
    (same : ∀ p : Position fields, p.get a = p.get b) : a = b := by
  induction fields with
  | nil => rfl
  | leaf field rest ih => exact Prod.ext (same here) (ih fun p => same (later p))
  | flatten ident typeName inner rest innerIh restIh =>
    exact Prod.ext (innerIh fun p => same (inside p)) (restIh fun p => same (after p))

/-- Declaration order. The leaves of a flattened record stand where its field does. -/
inductive Precedes : {fields : Fields} → Position fields → Position fields → Prop
  | here_later {field rest} (q : Position rest) :
      Precedes (here : Position (.leaf field rest)) (later q)
  | later {field rest} {p q : Position rest} (before : Precedes p q) :
      Precedes (later p : Position (.leaf field rest)) (later q)
  | inside {ident typeName inner rest} {p q : Position inner} (before : Precedes p q) :
      Precedes (inside p : Position (.flatten ident typeName inner rest)) (inside q)
  | inside_after {ident typeName inner rest} (p : Position inner) (q : Position rest) :
      Precedes (inside p : Position (.flatten ident typeName inner rest)) (after q)
  | after {ident typeName inner rest} {p q : Position rest} (before : Precedes p q) :
      Precedes (after p : Position (.flatten ident typeName inner rest)) (after q)

theorem Precedes.ne {fields : Fields} {p q : Position fields} (before : p.Precedes q) : p ≠ q := by
  induction before with
  | here_later q => exact nofun
  | later _ ih => exact fun same => ih (later.inj same)
  | inside _ ih => exact fun same => ih (inside.inj same)
  | inside_after p q => exact nofun
  | after _ ih => exact fun same => ih (after.inj same)

theorem Precedes.asymm {fields : Fields} {p q : Position fields} (before : p.Precedes q) :
    ¬q.Precedes p := by
  induction before with
  | here_later q => exact nofun
  | later _ ih => exact fun | .later back => ih back
  | inside _ ih => exact fun | .inside back => ih back
  | inside_after p q => exact nofun
  | after _ ih => exact fun | .after back => ih back

theorem precedes_trichotomy {fields : Fields} (p q : Position fields) :
    p.Precedes q ∨ p = q ∨ q.Precedes p := by
  induction p with
  | here =>
    cases q with
    | here => exact Or.inr (Or.inl rfl)
    | later q => exact Or.inl (.here_later q)
  | later p ih =>
    cases q with
    | here => exact Or.inr (Or.inr (.here_later p))
    | later q => exact (ih q).imp .later (Or.imp (congrArg _) .later)
  | inside p ih =>
    cases q with
    | inside q => exact (ih q).imp .inside (Or.imp (congrArg _) .inside)
    | after q => exact Or.inl (.inside_after p q)
  | after p ih =>
    cases q with
    | inside q => exact Or.inr (Or.inr (.inside_after q p))
    | after q => exact (ih q).imp .after (Or.imp (congrArg _) .after)

/-- The second record differs from the first in this leaf alone, which holds the
datum. -/
def Assigns {fields : Fields} (p : Position fields) (x : p.leaf.type.Carrier)
    (before after : fields.Instance) : Prop :=
  p.get after = x ∧ ∀ q : Position fields, q ≠ p → q.get after = q.get before

theorem assigns_set {fields : Fields} (p : Position fields) (x : p.leaf.type.Carrier)
    (record : fields.Instance) : p.Assigns x record (p.set x record) :=
  ⟨p.get_set_self x record, fun _ other => get_set_of_ne other x record⟩

end Position

open Position

/-- All leaves in flattened declaration order. -/
def positions : (fields : Fields) → List (Position fields)
  | nil => []
  | leaf _ rest => here :: rest.positions.map later
  | flatten _ _ inner rest => inner.positions.map inside ++ rest.positions.map after

theorem mem_positions {fields : Fields} (p : Position fields) : p ∈ fields.positions := by
  induction p with
  | here => exact List.mem_cons_self
  | later p ih => exact List.mem_cons_of_mem _ (List.mem_map_of_mem ih)
  | inside p ih => exact List.mem_append_left _ (List.mem_map_of_mem ih)
  | after p ih => exact List.mem_append_right _ (List.mem_map_of_mem ih)

theorem positions_pairwise (fields : Fields) : fields.positions.Pairwise Precedes := by
  induction fields with
  | nil => exact .nil
  | leaf field rest ih =>
    refine List.pairwise_cons.2 ⟨?_, ih.map later fun _ _ before => .later before⟩
    intro p member
    obtain ⟨q, _, rfl⟩ := List.mem_map.1 member
    exact .here_later q
  | flatten ident typeName inner rest innerIh restIh =>
    refine List.pairwise_append.2 ⟨innerIh.map inside fun _ _ before => .inside before,
      restIh.map after fun _ _ before => .after before, ?_⟩
    intro p inInner q inRest
    obtain ⟨p, _, rfl⟩ := List.mem_map.1 inInner
    obtain ⟨q, _, rfl⟩ := List.mem_map.1 inRest
    exact .inside_after p q

end RecordBinding.Fields
