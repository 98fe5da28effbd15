import RecordBinding.Record.Columns
import RecordBinding.Record.Source

namespace RecordBinding

variable {fields : Fields}

/-- A row's columns bound to a record one after the other, in row order. Columns
without a field are skipped, and the first value that does not convert ends the
binding. -/
def Fields.bindRow (fields : Fields) (record : fields.Instance) : Row → Except Error fields.Instance
  | [] => .ok record
  | (name, v) :: rest =>
    match fields.resolveColumn name with
    | none => fields.bindRow record rest
    | some slot =>
      match fields.bindColumn slot v record with
      | .ok record => fields.bindRow record rest
      | .error e => .error e

/-- Column names resolved to slots once, for all rows of a source. -/
structure ColumnPlan (fields : Fields) where
  slots : List (Option Nat)

namespace ColumnPlan

def ofColumns (fields : Fields) (columns : List String) : ColumnPlan fields :=
  ⟨columns.map fields.resolveColumn⟩

def length (plan : ColumnPlan fields) : Nat := plan.slots.length

def isEmpty (plan : ColumnPlan fields) : Bool := plan.slots.isEmpty

/-- Number of columns that a field takes. -/
def boundColumns (plan : ColumnPlan fields) : Nat := (plan.slots.filter (·.isSome)).length

/-- Values bound to the slots they stand at. -/
def bindSlots (record : fields.Instance) : List (Option Nat) → List Value →
    Except Error fields.Instance
  | some slot :: slots, v :: values =>
    match fields.bindColumn slot v record with
    | .ok record => bindSlots record slots values
    | .error e => .error e
  | none :: slots, _ :: values => bindSlots record slots values
  | _, _ => .ok record

/-- One row of values in the plan's column order. Their number is checked before
any of them is looked at. -/
def bind (plan : ColumnPlan fields) (start : fields.Instance) (values : List Value) :
    Except Error fields.Instance :=
  if values.length = plan.length then bindSlots start plan.slots values
  else .error (.arity plan.length values.length)

end ColumnPlan

/-- A source whose rows are turned into records as they are asked for. -/
structure Materialization (fields : Fields) where
  plan : ColumnPlan fields
  start : fields.Instance
  source : RowSource

namespace Materialization

def ofSource (start : fields.Instance) (source : RowSource) : Materialization fields :=
  ⟨.ofColumns fields source.columns, start, source⟩

/-- One item of the source, bound on its own. A failure does not end the walk. -/
def next (m : Materialization fields) :
    Option (Except Error fields.Instance) × Materialization fields :=
  match m.source.next with
  | (none, source) => (none, { m with source })
  | (some (.error e), source) => (some (.error e), { m with source })
  | (some (.ok values), source) => (some (m.plan.bind m.start values), { m with source })

/-- Items bound up to the first failure, and the items not taken. -/
def collect (plan : ColumnPlan fields) (start : fields.Instance) :
    List (Except Error (List Value)) →
      Except Error (List fields.Instance) × List (Except Error (List Value))
  | [] => (.ok [], [])
  | .error e :: rest => (.error e, rest)
  | .ok values :: rest =>
    match plan.bind start values with
    | .error e => (.error e, rest)
    | .ok record =>
      match collect plan start rest with
      | (.ok records, unread) => (.ok (record :: records), unread)
      | (.error e, unread) => (.error e, unread)

/-- All records of a source, or its first failure, with what is left of the source. -/
def all (m : Materialization fields) : Except Error (List fields.Instance) × RowSource :=
  let (result, unread) := collect m.plan m.start m.source.pending
  (result, { m.source with pending := unread })

end Materialization

end RecordBinding
