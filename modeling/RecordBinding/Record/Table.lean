import RecordBinding.Record.Row
import RecordBinding.Error.Basic
import RecordBinding.Text.Folding

namespace RecordBinding

/-- An in-memory result set: named columns, and rows with one value for each. -/
structure Table where
  columns : List String
  rows : List (List Value)
  even : ∀ values ∈ rows, values.length = columns.length

namespace Table

def ofColumns (columns : List String) : Table := ⟨columns, [], by simp⟩

/-- A row is added at the end, if it has one value for each column. -/
def push (table : Table) (values : List Value) : Except Error Table :=
  if fits : values.length = table.columns.length then
    .ok { table with
      rows := table.rows ++ [values]
      even := by
        intro row member
        rcases List.mem_append.1 member with old | new
        · exact table.even row old
        · rw [List.mem_singleton.1 new, fits] }
  else .error (.arity table.columns.length values.length)

/-- The row at a position, its values under the table's column names. -/
def row? (table : Table) (index : Nat) : Option Row :=
  table.rows[index]?.map (table.columns.zip ·)

/-- All rows in order. -/
def toRows (table : Table) : List Row := table.rows.map (table.columns.zip ·)

/-- Equality of columns and values. -/
def equals (a b : Table) : Bool :=
  a.columns == b.columns && Value.allEqual (a.rows.map .list) (b.rows.map .list)

end Table

/-- The value under the first column with a name, ignoring case. -/
def Row.get? (row : Row) (name : String) : Option Value :=
  (row.find? fun column => eqIgnoreCase column.1 name).map (·.2)

end RecordBinding
