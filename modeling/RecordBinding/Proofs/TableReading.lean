import RecordBinding.Proofs.BulkMaterialization

namespace RecordBinding

/-- The value under a name, looked up by the position of the first column that has it. The
answer `some none` stands for a position where the row has no value. -/
def valueUnder? (columns : List String) (values : List Value) (name : String) :
    Option (Option Value) :=
  (columns.findIdx? fun column => eqIgnoreCase column name).map (values[·]?)

/-- A row that is read by position from columns and values, every position in range. -/
structure Row.ReadsInRange (row : Row) (columns : List String) (values : List Value) : Prop where
  length_eq : row.length = values.length
  name_at : ∀ j < row.length, ∃ name, columns[j]? = some name ∧ row.columnName? j = some name
  value_at : ∀ j < row.length, ∃ v, values[j]? = some v ∧ row.value? j = some v
  value_under : ∀ name, valueUnder? columns values name = (row.get? name).map some

theorem valueUnder?_eq_get? {columns : List String} {values : List Value}
    (even : values.length = columns.length) (name : String) :
    valueUnder? columns values name = (Row.get? (columns.zip values) name).map some := by
  induction columns generalizing values with
  | nil => rfl
  | cons column rest ih =>
    cases values with
    | nil => cases even
    | cons v others =>
      have shorter : others.length = rest.length := Nat.succ.inj even
      have later := ih shorter
      simp only [valueUnder?, Row.get?, List.zip_cons_cons, List.findIdx?_cons,
        List.find?_cons] at later ⊢
      cases eqIgnoreCase column name with
      | true => rfl
      | false =>
        rw [← later]
        cases rest.findIdx? fun column => eqIgnoreCase column name <;> rfl

theorem Row.readsInRange_zip {columns : List String} {values : List Value}
    (even : values.length = columns.length) :
    Row.ReadsInRange (columns.zip values) columns values := by
  have size : (columns.zip values).length = values.length := by
    rw [List.length_zip, even, Nat.min_self]
  refine ⟨size, ?_, ?_, valueUnder?_eq_get? even⟩
  · intro j inside
    have named : j < columns.length := by omega
    refine ⟨columns[j], List.getElem?_eq_getElem named, ?_⟩
    rw [columnName?, List.getElem?_eq_getElem inside, List.getElem_zip, Option.map_some]
  · intro j inside
    have valued : j < values.length := by omega
    refine ⟨values[j], List.getElem?_eq_getElem valued, ?_⟩
    rw [value?, List.getElem?_eq_getElem inside, List.getElem_zip, Option.map_some]

namespace Table

/-- A row added in place. A table that refuses a row is still there. -/
def pushRow (table : Table) (values : List Value) : Except Error Unit × Table :=
  match table.push values with
  | .ok after => (.ok (), after)
  | .error e => (.error e, table)

theorem push_of_fits {table : Table} {values : List Value}
    (fits : values.length = table.columns.length) :
    ∃ after, table.push values = .ok after ∧ table.pushRow values = (.ok (), after) ∧
      after.columns = table.columns ∧ after.rows = table.rows ++ [values] := by
  have pushed : ∃ after, table.push values = .ok after ∧ after.columns = table.columns ∧
      after.rows = table.rows ++ [values] := by
    rw [push, dif_pos fits]
    exact ⟨_, rfl, rfl, rfl⟩
  obtain ⟨after, outcome, columns, rows⟩ := pushed
  refine ⟨after, outcome, ?_, columns, rows⟩
  rw [pushRow, outcome]

theorem push_of_unfit {table : Table} {values : List Value}
    (unfit : values.length ≠ table.columns.length) :
    table.push values = .error (.arity table.columns.length values.length) ∧
      table.pushRow values = (.error (.arity table.columns.length values.length), table) := by
  have refused : table.push values = .error (.arity table.columns.length values.length) := by
    rw [push, dif_neg unfit]
  refine ⟨refused, ?_⟩
  rw [pushRow, refused]

/-- Tables that begin with columns alone, with all rows that were offered to them since: in
place, whether they fit or not, or by building a larger table, which only a row that fits
gives. -/
inductive Reached (columns : List String) : List (List Value) → Table → Prop
  | new : Reached columns [] (ofColumns columns)
  | pushed {offered table} : Reached columns offered table → (values : List Value) →
      Reached columns (offered ++ [values]) (table.pushRow values).2
  | built {offered table after values} : Reached columns offered table →
      table.push values = .ok after → Reached columns (offered ++ [values]) after

/-- What offering a row comes to, however it is done. -/
theorem Reached.step_cases {columns : List String} {table after : Table} {values : List Value}
    (same : table.columns = columns)
    (step : after = (table.pushRow values).2 ∨ table.push values = .ok after) :
    after.columns = columns ∧
      after.rows = table.rows ++ [values].filter fun row => row.length = columns.length := by
  by_cases fits : values.length = table.columns.length
  · obtain ⟨next, built, pushed, sameColumns, rows⟩ := push_of_fits fits
    have reached : after = next := by
      rcases step with place | outcome
      · rw [place, pushed]
      · exact Except.ok.inj (outcome.symm.trans built)
    subst after
    rw [List.filter_singleton, sameColumns, rows, fits, same]
    simp
  · obtain ⟨refused, unchanged⟩ := push_of_unfit fits
    rcases step with place | outcome
    · subst after
      rw [same] at fits
      rw [unchanged, List.filter_singleton]
      simp [fits, same]
    · rw [refused] at outcome
      cases outcome

namespace Reached

variable {columns : List String} {offered : List (List Value)} {table : Table}

theorem columns_eq (reached : Reached columns offered table) : table.columns = columns := by
  induction reached with
  | new => rfl
  | pushed _ values ih => exact (step_cases ih (.inl rfl)).1
  | built _ outcome ih => exact (step_cases ih (.inr outcome)).1

/-- The rows are those offered that fit, in the order in which they came. -/
theorem rows_eq (reached : Reached columns offered table) :
    table.rows = offered.filter fun values => values.length = columns.length := by
  induction reached with
  | new => rfl
  | pushed before values ih =>
    rw [(step_cases before.columns_eq (.inl rfl)).2, ih, List.filter_append]
  | built before outcome ih =>
    rw [(step_cases before.columns_eq (.inr outcome)).2, ih, List.filter_append]

theorem row_length (reached : Reached columns offered table) {values : List Value}
    (stored : values ∈ table.rows) : values.length = columns.length := by
  rw [reached.rows_eq] at stored
  exact of_decide_eq_true (List.mem_filter.1 stored).2

end Reached

/-- A reader after some requests. -/
def Reader.after (reader : Reader) : Nat → Reader
  | 0 => reader
  | requests + 1 => (reader.after requests).next.2

/-- A reader stops behind the last row. -/
theorem reader_after_eq (table : Table) (requests : Nat) :
    table.reader.after requests = ⟨table, min requests table.rows.length⟩ := by
  induction requests with
  | zero => rw [Reader.after, reader, Nat.zero_min]
  | succ requests ih =>
    rw [Reader.after, ih, Reader.next]
    by_cases inside : requests < table.rows.length
    · have here : min requests table.rows.length = requests := by omega
      have next : min (requests + 1) table.rows.length = requests + 1 := by omega
      rw [here, next, List.getElem?_eq_getElem inside]
    · have here : min requests table.rows.length = table.rows.length := by omega
      have next : min (requests + 1) table.rows.length = table.rows.length := by omega
      rw [here, next, List.getElem?_eq_none (Nat.le_refl _)]

theorem reader_next_after (table : Table) (requests : Nat) :
    (table.reader.after requests).next.1 = table.rows[requests]? := by
  have answer : (table.reader.after requests).next.1 =
      table.rows[min requests table.rows.length]? := by
    rw [reader_after_eq, Reader.next]
    cases table.rows[min requests table.rows.length]? <;> rfl
  rw [answer]
  by_cases inside : requests < table.rows.length
  · rw [Nat.min_eq_left (Nat.le_of_lt inside)]
  · have outside : table.rows.length ≤ requests := Nat.le_of_not_lt inside
    rw [Nat.min_eq_right outside, List.getElem?_eq_none (Nat.le_refl _),
      List.getElem?_eq_none outside]

/-- A reader taken for a source gives the rows that the reader gives. -/
theorem Reader.source_next (reader : Reader) :
    reader.source.next = (reader.next.1.map .ok, reader.next.2.source) := by
  obtain ⟨table, position⟩ := reader
  by_cases inside : position < table.rows.length
  · have pending : table.rows.drop position =
        table.rows[position] :: table.rows.drop (position + 1) :=
      List.drop_eq_getElem_cons inside
    simp only [source, next, pending, List.map_cons, RowSource.next,
      List.getElem?_eq_getElem inside, Option.map_some]
  · have outside : table.rows.length ≤ position := Nat.le_of_not_lt inside
    have pending : table.rows.drop position = [] := List.drop_eq_nil_of_le outside
    simp only [source, next, pending, List.map_nil, RowSource.next,
      List.getElem?_eq_none outside, Option.map_none]

theorem collect_rows {fields : Fields} (start : fields.Instance) {columns : List String}
    {rows : List (List Value)} (even : ∀ values ∈ rows, values.length = columns.length) :
    (Materialization.collect (.ofColumns fields columns) start (rows.map .ok)).1 =
      (rows.map (columns.zip ·)).mapM (fields.bindRow start) := by
  induction rows with
  | nil => rfl
  | cons values rest ih =>
    have here : columns.length = values.length := (even values (.head rest)).symm
    have later := ih fun other member => even other (.tail values member)
    rw [List.map_cons, Materialization.collect_cons, ColumnPlan.answer,
      ColumnPlan.bind_of_even here, List.map_cons, List.mapM_cons]
    cases fields.bindRow start (columns.zip values) with
    | error e => rfl
    | ok record =>
      dsimp only
      rw [later]
      cases (rest.map (columns.zip ·)).mapM (fields.bindRow start) <;> rfl

namespace Reached

variable {columns : List String} {offered : List (List Value)} {table : Table}

theorem row_reads_in_range (reached : Reached columns offered table) {i : Nat} {row : Row}
    (found : table.row? i = some row) :
    ∃ values, table.rows[i]? = some values ∧ row.ReadsInRange columns values := by
  obtain ⟨values, stored, rfl⟩ := Option.map_eq_some_iff.1 found
  have even := reached.row_length (List.mem_of_getElem? stored)
  rw [reached.columns_eq]
  exact ⟨values, stored, Row.readsInRange_zip even⟩

theorem reader_reads_row (reached : Reached columns offered table) (requests : Nat) :
    (table.reader.after requests).next.1 = (table.row? requests).map (·.map (·.2)) := by
  rw [reader_next_after, row?]
  cases stored : table.rows[requests]? with
  | none => rfl
  | some values =>
    have fits : values.length = table.columns.length := by
      rw [reached.columns_eq, reached.row_length (List.mem_of_getElem? stored)]
    rw [Option.map_some, Option.map_some, List.map_snd_zip (Nat.le_of_eq fits)]

theorem all_eq_mapM (reached : Reached columns offered table) {type : RecordType}
    {start : type.fields.Instance} {fromRow : Row → Except Error type.fields.Instance}
    (constructs : type.construct = some start)
    (reads : ∀ row, type.fromRow? row = some (fromRow row)) :
    (Materialization.ofSource start table.reader.source).all.1 = table.toRows.mapM fromRow := by
  have bound : fromRow = type.fields.bindRow start := by
    funext row
    have both := reads row
    rw [RecordType.fromRow?, constructs, Option.map_some] at both
    exact (Option.some.inj both).symm
  have even : ∀ values ∈ table.rows, values.length = table.columns.length := by
    intro values stored
    rw [reached.columns_eq, reached.row_length stored]
  rw [bound]
  exact collect_rows start even

end Reached

/-- Tables as they can come about, and reading them. The rows are the rows offered that have
one value for each column, in order, so nothing that is read from a row by position is out of
range. A row of another length is refused with both numbers and the table stays as it was, and
one that fits goes to the end. A reader gives the rows in order and after them nothing. Making
a record of every row is doing so row by row, up to the first failure. -/
theorem reached_reads_in_range {columns : List String} {offered : List (List Value)}
    {table : Table} (reached : Reached columns offered table) :
    table.columns = columns ∧
    (table.rows = offered.filter fun values => values.length = columns.length) ∧
    (∀ values ∈ table.rows, values.length = columns.length) ∧
    (∀ i, table.row? i = table.toRows[i]?) ∧
    (∀ i row, table.row? i = some row →
      ∃ values, table.rows[i]? = some values ∧ row.ReadsInRange columns values) ∧
    (∀ values, values.length ≠ columns.length →
      table.push values = .error (.arity columns.length values.length) ∧
        table.pushRow values = (.error (.arity columns.length values.length), table)) ∧
    (∀ values, values.length = columns.length →
      ∃ after, table.push values = .ok after ∧ table.pushRow values = (.ok (), after) ∧
        after.columns = columns ∧ after.rows = table.rows ++ [values]) ∧
    (∀ n, (table.reader.after n).next.1 = (table.row? n).map (·.map (·.2))) ∧
    (∀ n, table.rows.length ≤ n → (table.reader.after n).next.1 = none) ∧
    (∀ n, (table.reader.after n).source.next =
      ((table.reader.after n).next.1.map .ok, (table.reader.after (n + 1)).source)) ∧
    ∀ (type : RecordType) start fromRow, type.construct = some start →
      (∀ row, type.fromRow? row = some (fromRow row)) →
        (Materialization.ofSource start table.reader.source).all.1 =
          table.toRows.mapM fromRow := by
  have same := reached.columns_eq
  refine ⟨same, reached.rows_eq, fun _ => reached.row_length, ?_,
    fun _ _ => reached.row_reads_in_range, ?_, ?_, reached.reader_reads_row, ?_,
    fun n => (table.reader.after n).source_next, fun _ _ _ => reached.all_eq_mapM⟩
  · intro i
    rw [row?, toRows, List.getElem?_map]
  · intro values unfit
    rw [← same] at unfit ⊢
    exact push_of_unfit unfit
  · intro values fits
    rw [← same] at fits ⊢
    exact push_of_fits fits
  · intro n outside
    rw [reader_next_after, List.getElem?_eq_none outside]

/-- A row, a row that is too short, and a row, for two columns. -/
def pairRows : List (List Value) :=
  [[.int .u8 ⟨5, by decide⟩, .null], [.null], [.int .i64 ⟨6, by decide⟩, .bool true]]

def pairTable : Table :=
  pairRows.foldl (fun table values => (table.pushRow values).2) (ofColumns ["ID", "Extra"])

/-- The short row is not there to be read, and both others are. -/
theorem pairTable_reads_in_range :
    Reached ["ID", "Extra"] pairRows pairTable ∧
      (pairTable.reader.after 1).next.1 = some [.int .i64 ⟨6, by decide⟩, .bool true] ∧
      (pairTable.reader.after 5).next.1 = none ∧
      (Materialization.ofSource Sample.childFields.default pairTable.reader.source).all.1 =
        pairTable.toRows.mapM (Sample.childFields.bindRow Sample.childFields.default) := by
  have reached : Reached ["ID", "Extra"] pairRows pairTable :=
    .built (.pushed (.pushed .new [.int .u8 ⟨5, by decide⟩, .null]) [.null]) rfl
  obtain ⟨_, _, _, _, _, _, _, reads, ends, _, all⟩ := reached_reads_in_range reached
  exact ⟨reached, reads 1, ends 5 (by decide), all Sample.childClass _ _ rfl fun _ => rfl⟩

end Table

end RecordBinding
