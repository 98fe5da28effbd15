import Mathlib.Data.List.Forall2
import RecordBinding.Proofs.PlannedBinding

namespace RecordBinding

variable {fields : Fields}

namespace ColumnPlan

/-- What an item of a source comes to on its own: its failure, or its row bound to a record
as it begins. -/
def answer (plan : ColumnPlan fields) (start : fields.Instance) :
    Except Error (List Value) → Except Error fields.Instance
  | .error e => .error e
  | .ok values => plan.bind start values

/-- An item fails in one of three ways: the source has failed, the row has not one value for
each column, or a value does not convert. -/
theorem answer_eq_error_iff {columns : List String} {start : fields.Instance}
    {item : Except Error (List Value)} {e : Error} :
    (ofColumns fields columns).answer start item = .error e ↔
      item = .error e ∨
        ∃ values, item = .ok values ∧
          (columns.length ≠ values.length ∧ e = .arity columns.length values.length ∨
            columns.length = values.length ∧
              fields.bindRow start (columns.zip values) = .error e) := by
  cases item with
  | error cause =>
    rw [answer]
    constructor
    · intro failed
      exact Or.inl (congrArg Except.error (Except.error.inj failed))
    · rintro (same | ⟨values, impossible, _⟩)
      · exact congrArg Except.error (Except.error.inj same)
      · cases impossible
  | ok values =>
    rw [answer]
    constructor
    · intro failed
      refine Or.inr ⟨values, rfl, ?_⟩
      by_cases even : columns.length = values.length
      · rw [bind_of_even even] at failed
        exact Or.inr ⟨even, failed⟩
      · rw [bind_of_uneven even] at failed
        exact Or.inl ⟨even, (Except.error.inj failed).symm⟩
    · rintro (impossible | ⟨row, same, ⟨uneven, rfl⟩ | ⟨even, failed⟩⟩)
      · cases impossible
      · cases same
        exact bind_of_uneven uneven start
      · cases same
        rw [bind_of_even even, failed]

/-- Each item of the one list binds to the record at its place in the other. -/
def BindsAll (plan : ColumnPlan fields) (start : fields.Instance) :
    List (Except Error (List Value)) → List fields.Instance → Prop :=
  List.Forall₂ fun item record => plan.answer start item = .ok record

/-- All items bind, or there is a first one that does not. -/
theorem bindsAll_or_first_failure (plan : ColumnPlan fields) (start : fields.Instance)
    (items : List (Except Error (List Value))) :
    (∃ records, plan.BindsAll start items records) ∨
      ∃ earlier item later records e, items = earlier ++ item :: later ∧
        plan.BindsAll start earlier records ∧ plan.answer start item = .error e := by
  induction items with
  | nil => exact Or.inl ⟨[], .nil⟩
  | cons item rest ih =>
    cases outcome : plan.answer start item with
    | error e => exact Or.inr ⟨[], item, rest, [], e, rfl, .nil, outcome⟩
    | ok record =>
      rcases ih with ⟨records, bound⟩ | ⟨earlier, bad, later, records, e, order, bound, failed⟩
      · exact Or.inl ⟨record :: records, .cons outcome bound⟩
      · have here : item :: rest = (item :: earlier) ++ bad :: later := by
          rw [order, List.cons_append]
        exact Or.inr ⟨item :: earlier, bad, later, record :: records, e, here,
          .cons outcome bound, failed⟩

end ColumnPlan

namespace Materialization

/-- The walk with some more items of its source taken. -/
def skip (m : Materialization fields) (taken : Nat) : Materialization fields :=
  { m with source := { m.source with pending := m.source.pending.drop taken } }

theorem skip_skip (m : Materialization fields) (first second : Nat) :
    (m.skip first).skip second = m.skip (first + second) := by
  simp only [skip, List.drop_drop]

/-- A request takes one item, if there is one, and gives the answer to it. Neither the plan
nor the record to begin with changes. -/
theorem next_eq (m : Materialization fields) :
    m.next = (m.source.pending.head?.map (m.plan.answer m.start), m.skip 1) := by
  obtain ⟨plan, start, columns, pending⟩ := m
  cases pending with
  | nil => rfl
  | cons item rest =>
    cases item with
    | error e => rfl
    | ok values => rfl

/-- The walk after some requests, whatever their answers. -/
def after (m : Materialization fields) : Nat → Materialization fields
  | 0 => m
  | requests + 1 => (m.after requests).next.2

theorem after_eq_skip (m : Materialization fields) (requests : Nat) :
    m.after requests = m.skip requests := by
  induction requests with
  | zero => rfl
  | succ requests ih => rw [after, next_eq, ih, skip_skip]

/-- The answer to a request depends on the item at its place alone. -/
theorem next_after (m : Materialization fields) (requests : Nat) :
    (m.after requests).next.1 = m.source.pending[requests]?.map (m.plan.answer m.start) := by
  rw [next_eq, after_eq_skip]
  simp only [skip, List.head?_drop]

/-- Collecting what a walk answers, told by requests: it goes on until nothing comes, and a
failure ends it at once. The walk that is left can still be asked. -/
inductive Collects : Materialization fields → Except Error (List fields.Instance) →
    Materialization fields → Prop
  | exhausted {m left} : m.next = (none, left) → Collects m (.ok []) left
  | failed {m left e} : m.next = (some (.error e), left) → Collects m (.error e) left
  | bound {m later left record result} : m.next = (some (.ok record), later) →
      Collects later result left → Collects m (result.map (record :: ·)) left

theorem collect_cons (plan : ColumnPlan fields) (start : fields.Instance)
    (item : Except Error (List Value)) (rest : List (Except Error (List Value))) :
    collect plan start (item :: rest) =
      match plan.answer start item with
      | .ok record => ((collect plan start rest).1.map (record :: ·), (collect plan start rest).2)
      | .error e => (.error e, rest) := by
  cases item with
  | error e => rfl
  | ok values =>
    rw [collect, ColumnPlan.answer]
    cases plan.bind start values with
    | error e => rfl
    | ok record =>
      dsimp only
      rcases collect plan start rest with ⟨result, unread⟩
      cases result with
      | ok records => rfl
      | error e => rfl

theorem collects_collect (plan : ColumnPlan fields) (start : fields.Instance)
    (columns : List String) (pending : List (Except Error (List Value))) :
    Collects ⟨plan, start, columns, pending⟩ (collect plan start pending).1
      ⟨plan, start, columns, (collect plan start pending).2⟩ := by
  induction pending with
  | nil => exact .exhausted rfl
  | cons item rest ih =>
    have request := next_eq (⟨plan, start, columns, item :: rest⟩ : Materialization fields)
    rw [collect_cons]
    dsimp only [List.head?_cons, Option.map_some] at request
    cases outcome : plan.answer start item with
    | error e =>
      rw [outcome] at request
      exact .failed request
    | ok record =>
      rw [outcome] at request
      exact .bound request ih

/-- Materializing everything is collecting the answers of the walk. -/
theorem collects_all (m : Materialization fields) :
    Collects m m.all.1 { m with source := m.all.2 } :=
  collects_collect m.plan m.start m.source.columns m.source.pending

/-- Items that bind add their records in front, and leave what follows to be collected. -/
theorem collect_append {plan : ColumnPlan fields} {start : fields.Instance}
    {items : List (Except Error (List Value))} {records : List fields.Instance}
    (bound : plan.BindsAll start items records) (rest : List (Except Error (List Value))) :
    collect plan start (items ++ rest) =
      ((collect plan start rest).1.map (records ++ ·), (collect plan start rest).2) := by
  induction bound with
  | nil =>
    have unchanged : (collect plan start rest).1.map ([] ++ ·) = (collect plan start rest).1 := by
      cases (collect plan start rest).1 <;> rfl
    rw [List.nil_append, unchanged]
  | cons outcome _ ih =>
    rw [List.cons_append, collect_cons, outcome, ih]
    dsimp only
    cases (collect plan start rest).1 <;> rfl

theorem all_of_bindsAll {m : Materialization fields} {records : List fields.Instance}
    (bound : m.plan.BindsAll m.start m.source.pending records) :
    m.all = (.ok records, { m.source with pending := [] }) := by
  have collected := collect_append bound []
  rw [List.append_nil] at collected
  rw [all, collected]
  simp only [collect, Except.map, List.append_nil]

theorem all_of_first_failure {m : Materialization fields}
    {earlier later : List (Except Error (List Value))} {item : Except Error (List Value)}
    {records : List fields.Instance} {e : Error}
    (order : m.source.pending = earlier ++ item :: later)
    (bound : m.plan.BindsAll m.start earlier records)
    (failed : m.plan.answer m.start item = .error e) :
    m.all = (.error e, { m.source with pending := later }) := by
  have collected := collect_append bound (item :: later)
  rw [collect_cons, failed, ← order] at collected
  rw [all, collected]
  rfl

/-- Materializing a source, request by request or all at once. A request takes one item and
answers with the failure that the item is, or with its row bound on its own: what came
before does not matter, and neither does an earlier failure. When nothing is left nothing
comes. All at once is the answers collected, up to the first failure. If every item binds
there is a record for each, in order. Otherwise the first failing item's error is the
result, be it the source's own, a wrong number of values or a value that does not convert,
and the items behind it are still to be read. -/
theorem each_request_binds_one_item (type : RecordType) (start : type.fields.Instance)
    (constructs : type.construct = some start) (source : RowSource) :
    let plan := ColumnPlan.ofColumns type.fields source.columns
    let walk : Materialization type.fields := .ofSource start source
    (∀ i, (walk.after i).source = { source with pending := source.pending.drop i }) ∧
    (∀ i e, source.pending[i]? = some (.error e) → (walk.after i).next.1 = some (.error e)) ∧
    (∀ i values, source.pending[i]? = some (.ok values) →
      (walk.after i).next.1 = some (plan.bind start values)) ∧
    (∀ i, source.pending.length ≤ i → (walk.after i).next.1 = none) ∧
    Collects walk walk.all.1 { walk with source := walk.all.2 } ∧
    (∀ records, plan.BindsAll start source.pending records →
      walk.all = (.ok records, { source with pending := [] })) ∧
    (∀ earlier item later records e, source.pending = earlier ++ item :: later →
      plan.BindsAll start earlier records → plan.answer start item = .error e →
        walk.all = (.error e, { source with pending := later })) ∧
    ((∃ records, plan.BindsAll start source.pending records) ∨
      ∃ earlier item later records e, source.pending = earlier ++ item :: later ∧
        plan.BindsAll start earlier records ∧ plan.answer start item = .error e) ∧
    ∀ item e, plan.answer start item = .error e ↔
      item = .error e ∨
        ∃ values, item = .ok values ∧
          (source.columns.length ≠ values.length ∧
              e = .arity source.columns.length values.length ∨
            source.columns.length = values.length ∧
              type.fromRow? (source.columns.zip values) = some (.error e)) := by
  intro plan walk
  refine ⟨?_, ?_, ?_, ?_, collects_all walk, ?_, ?_, plan.bindsAll_or_first_failure start _, ?_⟩
  · intro i
    rw [after_eq_skip]
    rfl
  · intro i e here
    rw [walk.next_after]
    exact congrArg (Option.map (plan.answer start)) here
  · intro i values here
    rw [walk.next_after]
    exact congrArg (Option.map (plan.answer start)) here
  · intro i exhausted
    have none : walk.source.pending[i]? = none := List.getElem?_eq_none exhausted
    rw [walk.next_after, none, Option.map_none]
  · intro records bound
    exact all_of_bindsAll (m := walk) bound
  · intro earlier item later records e order bound failed
    exact all_of_first_failure (m := walk) order bound failed
  · intro item e
    have materialized : ∀ row, type.fromRow? row = some (.error e) ↔
        type.fields.bindRow start row = .error e := by
      intro row
      rw [RecordType.fromRow?, constructs]
      exact Option.some_inj
    simp only [materialized]
    exact ColumnPlan.answer_eq_error_iff

/-- A row, a failure of the source, a short row, a row that does not convert, and a row. -/
def mixedSource : RowSource where
  columns := ["ID", "Extra"]
  pending :=
    [.ok [.int .u8 ⟨7, by decide⟩, .null], .error (.adhoc "connection lost"), .ok [.null],
      .ok [.string "seven", .null], .ok [.int .i64 ⟨8, by decide⟩, .null]]

/-- Asked one by one, the source still gives its last row behind three failures. Taken as a
whole it ends at the first of them, with three items unread. -/
theorem mixedSource_binds_behind_failures :
    Sample.childClass.construct = some Sample.childFields.default ∧
      ((ofSource Sample.childFields.default mixedSource).after 4).next.1 =
        some ((ColumnPlan.ofColumns Sample.childFields mixedSource.columns).bind
          Sample.childFields.default [.int .i64 ⟨8, by decide⟩, .null]) ∧
      (ofSource Sample.childFields.default mixedSource).all =
        (.error (.adhoc "connection lost"),
          { mixedSource with pending := mixedSource.pending.drop 2 }) := by
  have constructs : Sample.childClass.construct = some Sample.childFields.default := rfl
  obtain ⟨_, _, rows, _, _, _, failing, _⟩ :=
    each_request_binds_one_item Sample.childClass _ constructs mixedSource
  refine ⟨constructs, rows 4 _ rfl, ?_⟩
  obtain ⟨record, bound⟩ : ∃ record, (ColumnPlan.ofColumns Sample.childFields
      mixedSource.columns).answer Sample.childFields.default
        (.ok [.int .u8 ⟨7, by decide⟩, .null]) = .ok record := ⟨_, rfl⟩
  exact failing [_] _ _ [record] _ rfl (.cons bound .nil) rfl

end Materialization

end RecordBinding
