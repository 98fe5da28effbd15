import RecordBinding.Record.Table

namespace RecordBinding

/-- A cursor over rows that share one set of columns: what it has still to
yield, in order. An item is a row of any length, or the source's own failure. -/
structure RowSource where
  columns : List String
  pending : List (Except Error (List Value))

namespace RowSource

/-- Taking one item. An exhausted source stays exhausted. -/
def next (source : RowSource) : Option (Except Error (List Value)) × RowSource :=
  match source.pending with
  | [] => (none, source)
  | item :: rest => (some item, { source with pending := rest })

end RowSource

/-- A position in a table, from which its rows are read one after the other. -/
structure Table.Reader where
  table : Table
  position : Nat

namespace Table

def reader (table : Table) : Reader := ⟨table, 0⟩

/-- The next row's values. Past the last row nothing more comes. -/
def Reader.next (reader : Reader) : Option (List Value) × Reader :=
  match reader.table.rows[reader.position]? with
  | some values => (some values, { reader with position := reader.position + 1 })
  | none => (none, reader)

/-- A reader as a source of the rows it has not read. -/
def Reader.source (reader : Reader) : RowSource :=
  ⟨reader.table.columns, (reader.table.rows.drop reader.position).map .ok⟩

end Table

end RecordBinding
