import RecordBinding.Proofs.CaseFolding
import RecordBinding.Proofs.SlotBinding
import RecordBinding.Record.RecordType
import RecordBinding.Sample.Records

namespace RecordBinding.Fields

open Position

/-- Columns with this name are bound to the leaf. -/
def Position.Receives {fields : Fields} (p : Position fields) (name : String) : Prop :=
  ∃ slot, fields.resolveColumn name = some slot ∧ fields.owner? slot = some p

theorem receives_iff_reached {fields : Fields} {p : Position fields} {name : String} :
    p.Receives name ↔ fields.reached? .column name = some p := by
  rw [← resolveColumn_bind_owner?, Option.bind_eq_some_iff]
  rfl

/-- A name is received by one leaf at most. -/
theorem Position.Receives.unique {fields : Fields} {p q : Position fields} {name : String}
    (first : p.Receives name) (second : q.Receives name) : p = q :=
  Option.some.inj ((receives_iff_reached.1 first).symm.trans (receives_iff_reached.1 second))

theorem Position.Receives.isFirst {fields : Fields} {p : Position fields} {name : String}
    (receives : p.Receives name) : p.IsFirst .column name :=
  isFirst_of_reached? (receives_iff_reached.1 receives)

/-- A column is passed over, or else a leaf receives it. -/
theorem unresolved_or_receives (fields : Fields) (name : String) :
    fields.resolveColumn name = none ∨ ∃ p : Position fields, p.Receives name := by
  cases resolved : fields.resolveColumn name with
  | none => exact Or.inl rfl
  | some slot =>
    obtain ⟨p, owned⟩ := owner?_exists_iff.2 (resolveColumn_lt resolved)
    exact Or.inr ⟨p, slot, resolved, owned⟩

theorem not_receives_of_unresolved {fields : Fields} {name : String}
    (unresolved : fields.resolveColumn name = none) (p : Position fields) : ¬p.Receives name := by
  rintro ⟨slot, resolved, _⟩
  cases unresolved.symm.trans resolved

/-- A leaf behind another column leaf of its name receives nothing. -/
theorem not_receives_of_shadowed {fields : Fields} {p q : Position fields} (before : q.Precedes p)
    (column : q.leaf.access.isColumn = true) (named : q.isNamed p.leaf.name = true)
    (name : String) : ¬p.Receives name := by
  intro receives
  obtain ⟨answers, first⟩ := receives.isFirst
  obtain ⟨_, matched⟩ := Bool.and_eq_true_iff.1 answers
  have taken : q.answers .column name = true :=
    Bool.and_eq_true_iff.2 ⟨column, eqIgnoreCase_trans matched named⟩
  cases taken.symm.trans (first q before)

theorem not_receives_of_not_column {fields : Fields} {p : Position fields}
    (hidden : p.leaf.access.isColumn = false) (name : String) : ¬p.Receives name := by
  intro receives
  cases hidden.symm.trans (Bool.and_eq_true_iff.1 receives.isFirst.1).1

theorem bindRow_of_unresolved {fields : Fields} {name : String}
    (unresolved : fields.resolveColumn name = none) (v : Value) (record : fields.Instance)
    (rest : Row) : fields.bindRow record ((name, v) :: rest) = fields.bindRow record rest := by
  rw [bindRow, unresolved]

theorem bindRow_of_ok {fields : Fields} {p : Position fields} {name : String} {v : Value}
    {x : p.leaf.type.Carrier} (receives : p.Receives name) (converts : p.leaf.type.coerce v = .ok x)
    (record : fields.Instance) (rest : Row) :
    fields.bindRow record ((name, v) :: rest) = fields.bindRow (p.set x record) rest := by
  obtain ⟨slot, resolved, owned⟩ := receives
  rw [bindRow, resolved]
  dsimp only
  rw [bindColumn_of_ok owned converts]

theorem bindRow_of_error {fields : Fields} {p : Position fields} {name : String} {v : Value}
    {e : Error} (receives : p.Receives name) (fails : p.leaf.type.coerce v = .error e)
    (record : fields.Instance) (rest : Row) :
    fields.bindRow record ((name, v) :: rest) = .error (e.within (.column p.leaf.name)) := by
  obtain ⟨slot, resolved, owned⟩ := receives
  rw [bindRow, resolved]
  dsimp only
  rw [bindColumn_of_error owned fails]

/-- Every column that a leaf receives converts to the type of the leaf. -/
def Converts (fields : Fields) (row : Row) : Prop :=
  ∀ column ∈ row, ∀ p : Position fields, p.Receives column.1 →
    ∃ x, p.leaf.type.coerce column.2 = .ok x

theorem converts_cons {fields : Fields} {column : String × Value} {rest : Row} :
    fields.Converts (column :: rest) ↔
      (∀ p : Position fields, p.Receives column.1 → ∃ x, p.leaf.type.coerce column.2 = .ok x) ∧
        fields.Converts rest :=
  List.forall_mem_cons

theorem bindRow_ok_iff {fields : Fields} {record : fields.Instance} {row : Row} :
    (∃ after, fields.bindRow record row = .ok after) ↔ fields.Converts row := by
  induction row generalizing record with
  | nil => exact iff_of_true ⟨record, rfl⟩ nofun
  | cons column rest ih =>
    obtain ⟨name, v⟩ := column
    rw [converts_cons]
    rcases fields.unresolved_or_receives name with unresolved | ⟨p, receives⟩
    · rw [bindRow_of_unresolved unresolved, ih]
      exact (and_iff_right fun p received =>
        absurd received (not_receives_of_unresolved unresolved p)).symm
    · cases outcome : p.leaf.type.coerce v with
      | ok x =>
        rw [bindRow_of_ok receives outcome, ih]
        refine (and_iff_right ?_).symm
        intro q received
        cases receives.unique received
        exact ⟨x, outcome⟩
      | error e =>
        rw [bindRow_of_error receives outcome]
        refine iff_of_false nofun ?_
        rintro ⟨converts, _⟩
        obtain ⟨x, ok⟩ := converts p receives
        cases outcome.symm.trans ok

/-- All that the first column can do when the row binds: it is passed over, or the
leaf that receives it takes its value, and the rest binds to the record so changed. -/
theorem bindRow_cons_cases {fields : Fields} {record after : fields.Instance} {name : String}
    {v : Value} {rest : Row} (bound : fields.bindRow record ((name, v) :: rest) = .ok after) :
    (fields.resolveColumn name = none ∧ fields.bindRow record rest = .ok after) ∨
      ∃ (p : Position fields) (x : p.leaf.type.Carrier), p.Receives name ∧
        p.leaf.type.coerce v = .ok x ∧ fields.bindRow (p.set x record) rest = .ok after := by
  rcases fields.unresolved_or_receives name with unresolved | ⟨p, receives⟩
  · rw [bindRow_of_unresolved unresolved] at bound
    exact Or.inl ⟨unresolved, bound⟩
  · cases outcome : p.leaf.type.coerce v with
    | ok x =>
      rw [bindRow_of_ok receives outcome] at bound
      exact Or.inr ⟨p, x, receives, outcome, bound⟩
    | error e =>
      rw [bindRow_of_error receives outcome] at bound
      cases bound

/-- A leaf that receives no column stays as it was. -/
theorem get_of_unreceived {fields : Fields} {record after : fields.Instance} {row : Row}
    {p : Position fields} (bound : fields.bindRow record row = .ok after)
    (unreceived : ∀ column ∈ row, ¬p.Receives column.1) : p.get after = p.get record := by
  induction row generalizing record with
  | nil => cases bound; rfl
  | cons column rest ih =>
    obtain ⟨notHere, notLater⟩ := List.forall_mem_cons.1 unreceived
    rcases bindRow_cons_cases bound with ⟨_, boundRest⟩ | ⟨q, x, receives, _, boundRest⟩
    · exact ih boundRest notLater
    · have other : p ≠ q := fun same => notHere (same ▸ receives)
      exact (ih boundRest notLater).trans (get_set_of_ne other x record)

/-- A leaf holds what the last column that it receives converts to. -/
theorem coerce_of_last {fields : Fields} {record after : fields.Instance} {earlier later : Row}
    {column : String × Value} {p : Position fields}
    (bound : fields.bindRow record (earlier ++ column :: later) = .ok after)
    (receives : p.Receives column.1) (last : ∀ column ∈ later, ¬p.Receives column.1) :
    p.leaf.type.coerce column.2 = .ok (p.get after) := by
  induction earlier generalizing record with
  | nil =>
    rcases bindRow_cons_cases bound with ⟨unresolved, _⟩ | ⟨q, x, received, converts, boundRest⟩
    · exact absurd receives (not_receives_of_unresolved unresolved p)
    · cases receives.unique received
      rw [get_of_unreceived boundRest last, get_set_self, converts]
  | cons first rest ih =>
    rcases bindRow_cons_cases bound with ⟨_, boundRest⟩ | ⟨_, _, _, _, boundRest⟩
    · exact ih boundRest
    · exact ih boundRest

/-- The columns of a row that resolve to a slot at all. -/
def resolvedColumns (fields : Fields) (row : Row) : Row :=
  row.filter fun column => (fields.resolveColumn column.1).isSome

theorem bindRow_resolvedColumns (fields : Fields) (record : fields.Instance) (row : Row) :
    fields.bindRow record (fields.resolvedColumns row) = fields.bindRow record row := by
  unfold resolvedColumns
  induction row generalizing record with
  | nil => rfl
  | cons column rest ih =>
    obtain ⟨name, v⟩ := column
    rcases fields.unresolved_or_receives name with unresolved | ⟨p, slot, resolved, owned⟩
    · simp only [List.filter_cons, unresolved, Option.isSome_none, Bool.false_eq_true, if_false]
      rw [ih, bindRow_of_unresolved unresolved]
    · have receives : p.Receives name := ⟨slot, resolved, owned⟩
      simp only [List.filter_cons, resolved, Option.isSome_some, if_true]
      cases outcome : p.leaf.type.coerce v with
      | ok x => rw [bindRow_of_ok receives outcome, bindRow_of_ok receives outcome, ih]
      | error e => rw [bindRow_of_error receives outcome, bindRow_of_error receives outcome]

/-- The columns of a row that resolve to a slot, in row order. -/
def columnsAt (fields : Fields) (slot : Nat) (row : Row) : Row :=
  row.filter fun column => fields.resolveColumn column.1 == some slot

theorem mem_columnsAt {fields : Fields} {slot : Nat} {row : Row} {column : String × Value} :
    column ∈ fields.columnsAt slot row ↔
      column ∈ row ∧ fields.resolveColumn column.1 = some slot := by
  rw [columnsAt, List.mem_filter, beq_iff_eq]

theorem receives_iff_of_owner? {fields : Fields} {slot : Nat} {p : Position fields}
    (owned : fields.owner? slot = some p) (name : String) :
    p.Receives name ↔ fields.resolveColumn name = some slot := by
  constructor
  · rintro ⟨other, resolved, otherOwned⟩
    rw [resolved, (owner?_exists_unique (isColumn_of_owner? owned)).unique otherOwned owned]
  · intro resolved
    exact ⟨slot, resolved, owned⟩

/-- A row in which a leaf receives some column has a last such column, which is the
last of those that resolve to the slot of the leaf. -/
theorem exists_last_column {fields : Fields} {slot : Nat} {p : Position fields}
    (owned : fields.owner? slot = some p) {row front : Row} {column : String × Value}
    (atSlot : fields.columnsAt slot row = front ++ [column]) :
    p.Receives column.1 ∧ ∃ earlier later, row = earlier ++ column :: later ∧
      ∀ column ∈ later, ¬p.Receives column.1 := by
  obtain ⟨earlier, tail, rfl, _, lastOne⟩ := List.filter_eq_append_iff.1 atSlot
  obtain ⟨skipped, later, rfl, _, accepted, none⟩ := List.filter_eq_cons_iff.1 lastOne
  refine ⟨(receives_iff_of_owner? owned _).2 (beq_iff_eq.1 accepted), earlier ++ skipped, later,
    by rw [List.append_assoc], ?_⟩
  intro other inLater receives
  refine List.filter_eq_nil_iff.1 none other inLater (beq_iff_eq.2 ?_)
  exact (receives_iff_of_owner? owned _).1 receives

theorem not_receives_of_columnsAt_eq_nil {fields : Fields} {slot : Nat} {p : Position fields}
    (owned : fields.owner? slot = some p) {row : Row} (none : fields.columnsAt slot row = []) :
    ∀ column ∈ row, ¬p.Receives column.1 := by
  intro column member receives
  have listed := mem_columnsAt.2 ⟨member, (receives_iff_of_owner? owned _).1 receives⟩
  rw [none] at listed
  cases listed

theorem converts_of_columnsAt_eq {fields : Fields} {a b : Row}
    (same : ∀ slot, fields.columnsAt slot a = fields.columnsAt slot b)
    (converts : fields.Converts a) : fields.Converts b := by
  rintro column member p ⟨slot, resolved, owned⟩
  have listed := mem_columnsAt.2 ⟨member, resolved⟩
  rw [← same slot] at listed
  exact converts column (mem_columnsAt.1 listed).1 p ⟨slot, resolved, owned⟩

/-- Two rows that bind, with the same columns at each slot, leave the same datum at
each leaf. -/
theorem get_eq_of_columnsAt_eq {fields : Fields} {a b : Row}
    (same : ∀ slot, fields.columnsAt slot a = fields.columnsAt slot b)
    {record afterA afterB : fields.Instance} (boundA : fields.bindRow record a = .ok afterA)
    (boundB : fields.bindRow record b = .ok afterB) (p : Position fields) :
    p.get afterA = p.get afterB := by
  by_cases column : p.leaf.access.isColumn = true
  · obtain ⟨slot, owned, _⟩ := owner?_exists_unique column
    rcases List.eq_nil_or_concat (fields.columnsAt slot a) with none | ⟨front, last, atSlot⟩
    · rw [get_of_unreceived boundA (not_receives_of_columnsAt_eq_nil owned none),
        get_of_unreceived boundB (not_receives_of_columnsAt_eq_nil owned (same slot ▸ none))]
    · rw [List.concat_eq_append] at atSlot
      obtain ⟨receives, earlierA, laterA, rfl, lastA⟩ := exists_last_column owned atSlot
      obtain ⟨_, earlierB, laterB, rfl, lastB⟩ := exists_last_column owned (same slot ▸ atSlot)
      have inA := coerce_of_last boundA receives lastA
      have inB := coerce_of_last boundB receives lastB
      exact Except.ok.inj (inA.symm.trans inB)
  · have never := not_receives_of_not_column (Bool.eq_false_iff.2 column)
    rw [get_of_unreceived boundA fun c _ => never c.1, get_of_unreceived boundB fun c _ => never c.1]

/-- Rows with the same columns at each slot, in the same order, bind to the same
record or fail both. The error may be another one. -/
theorem bindRow_toOption_congr {fields : Fields} {a b : Row}
    (same : ∀ slot, fields.columnsAt slot a = fields.columnsAt slot b) (record : fields.Instance) :
    (fields.bindRow record a).toOption = (fields.bindRow record b).toOption := by
  cases boundA : fields.bindRow record a with
  | ok afterA =>
    have converts := converts_of_columnsAt_eq same (bindRow_ok_iff.1 ⟨afterA, boundA⟩)
    obtain ⟨afterB, boundB⟩ := bindRow_ok_iff.2 converts
    rw [boundB, ext_get (get_eq_of_columnsAt_eq same boundA boundB)]
  | error e =>
    cases boundB : fields.bindRow record b with
    | error _ => rfl
    | ok afterB =>
      have converts := converts_of_columnsAt_eq (fun slot => (same slot).symm)
        (bindRow_ok_iff.1 ⟨afterB, boundB⟩)
      obtain ⟨afterA, ok⟩ := bindRow_ok_iff.2 converts
      cases boundA.symm.trans ok

/-- A row is materialized just when each column that resolves to a slot converts for
the leaf that owns the slot. Each leaf then holds the last column that resolved to its
slot. A leaf without one holds what it was constructed with, as do all leaves that are
no columns and those behind another of their name. Columns that resolve to nothing do
not matter, and neither does the order of columns at different slots. -/
theorem fromRow?_holds_last_columns (type : RecordType) (start : type.fields.Instance)
    (constructs : type.construct = some start) :
    (∀ row, ∃ outcome, type.fromRow? row = some outcome ∧
      ((∃ record, outcome = .ok record) ↔ ∀ column ∈ row, ∀ slot p,
        type.fields.resolveColumn column.1 = some slot → type.fields.owner? slot = some p →
          ∃ x, p.leaf.type.coerce column.2 = .ok x)) ∧
    (∀ row record, type.fromRow? row = some (.ok record) →
      (∀ (p : Position type.fields) earlier column later, row = earlier ++ column :: later →
        p.Receives column.1 → (∀ other ∈ later, ¬p.Receives other.1) →
          p.leaf.type.coerce column.2 = .ok (p.get record)) ∧
      (∀ p : Position type.fields, (∀ column ∈ row, ¬p.Receives column.1) →
        p.get record = p.get start) ∧
      (∀ p : Position type.fields, p.leaf.access.isColumn = false → p.get record = p.get start) ∧
      ∀ p q : Position type.fields, q.Precedes p → q.leaf.access.isColumn = true →
        q.isNamed p.leaf.name = true → p.get record = p.get start) ∧
    (∀ a b, type.fields.resolvedColumns a = type.fields.resolvedColumns b →
      type.fromRow? a = type.fromRow? b) ∧
    ∀ a b, (∀ slot, type.fields.columnsAt slot a = type.fields.columnsAt slot b) →
      (type.fromRow? a).map Except.toOption = (type.fromRow? b).map Except.toOption := by
  have materialized : ∀ row, type.fromRow? row = some (type.fields.bindRow start row) := by
    intro row
    rw [RecordType.fromRow?, constructs]
    rfl
  refine ⟨?_, ?_, ?_, ?_⟩
  · intro row
    refine ⟨_, materialized row, bindRow_ok_iff.trans ?_⟩
    constructor
    · intro converts column member slot p resolved owned
      exact converts column member p ⟨slot, resolved, owned⟩
    · rintro converts column member p ⟨slot, resolved, owned⟩
      exact converts column member slot p resolved owned
  · intro row record result
    have bound := Option.some.inj ((materialized row).symm.trans result)
    refine ⟨?_, ?_, ?_, ?_⟩
    · rintro p earlier column later rfl receives last
      exact coerce_of_last bound receives last
    · intro p unreceived
      exact get_of_unreceived bound unreceived
    · intro p hidden
      exact get_of_unreceived bound fun column _ => not_receives_of_not_column hidden column.1
    · intro p q before column named
      exact get_of_unreceived bound fun c _ => not_receives_of_shadowed before column named c.1
  · intro a b same
    rw [materialized, materialized, ← bindRow_resolvedColumns, same, bindRow_resolvedColumns]
  · intro a b same
    rw [materialized, materialized]
    exact congrArg some (bindRow_toOption_congr same start)

/-- Two columns for one leaf, and one for none. -/
def repeatedId : Row :=
  [("ID", .int .i32 ⟨1, by decide⟩), ("other", .null), ("id", .int .i32 ⟨7, by decide⟩)]

/-- Of the columns for the inherited identifier the last one counts, and the name has
none. -/
theorem childClass_holds_last_id :
    Sample.childClass.construct = some Sample.childFields.default ∧
      ∃ record, Sample.childClass.fromRow? repeatedId = some (.ok record) ∧
        (inside here : Position Sample.childFields).leaf.type.coerce (.int .i32 ⟨7, by decide⟩) =
          .ok ((inside here : Position Sample.childFields).get record) ∧
        (after here : Position Sample.childFields).get record =
          (after here : Position Sample.childFields).get Sample.childFields.default := by
  have constructs : Sample.childClass.construct = some Sample.childFields.default := rfl
  obtain ⟨_, held, _⟩ := fromRow?_holds_last_columns Sample.childClass _ constructs
  obtain ⟨record, result⟩ : ∃ record, Sample.childClass.fromRow? repeatedId = some (.ok record) :=
    ⟨_, rfl⟩
  obtain ⟨received, unreceived, _⟩ := held repeatedId record result
  refine ⟨constructs, record, result, ?_, ?_⟩
  · have id : (inside here : Position Sample.childFields).Receives "id" := ⟨0, by decide, rfl⟩
    exact received (inside here) [_, _] ("id", _) [] rfl id nofun
  · refine unreceived (after here) ?_
    intro column member receives
    have unnamed : ∀ column ∈ repeatedId, eqIgnoreCase column.1 "Name" = false := by decide
    have named := unnamed column member
    cases named.symm.trans (Bool.and_eq_true_iff.1 receives.isFirst.1).2

end RecordBinding.Fields
