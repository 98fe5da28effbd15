import RecordBinding.Value.Basic
import RecordBinding.Text.Quoted

namespace RecordBinding

/-- Items between brackets, with a comma and a blank between them. -/
def bracketed (items : List String) : String := "[" ++ ", ".intercalate items ++ "]"

namespace Value

mutual

/-- The text of a value as error messages show it. Text is quoted, so that it
differs from what it may look like. -/
def display : Value → String
  | null => "null"
  | bool b => toString b
  | int _ n => toString n.val
  | single x => x.display
  | double x => x.display
  | decimal d => d.display
  | char c => quoteChar c
  | string s => quoteString s
  | bytes bs => bracketed (bs.map fun b => toString b.toNat)
  | dateTime t => t.text " "
  | dateTimeOffset t => t.text " " " "
  | timeSpan t => t.text
  | guid id => id.text
  | enum tag => tag.type ++ "(" ++ toString tag.ordinal ++ ")"
  | list items => bracketed (displayAll items)

def displayAll : List Value → List String
  | [] => []
  | v :: rest => display v :: displayAll rest

end

end Value

end RecordBinding
