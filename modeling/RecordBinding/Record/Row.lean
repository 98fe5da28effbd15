import RecordBinding.Value.Basic

namespace RecordBinding

/-- One tabular record: named values in the order of whoever produced it. -/
abbrev Row : Type := List (String × Value)

namespace Row

def columnName? (row : Row) (index : Nat) : Option String := row[index]?.map (·.1)

def value? (row : Row) (index : Nat) : Option Value := row[index]?.map (·.2)

/-- A walk over a row's columns. -/
structure Cursor where
  row : Row
  index : Nat

def cursor (row : Row) : Cursor := ⟨row, 0⟩

/-- How many columns are still to come. -/
def Cursor.remaining (c : Cursor) : Nat := c.row.length - c.index

def Cursor.next (c : Cursor) : Option ((String × Value) × Cursor) :=
  match c.row[c.index]? with
  | some column => some (column, { c with index := c.index + 1 })
  | none => none

end Row

end RecordBinding
