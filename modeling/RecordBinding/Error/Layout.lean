import RecordBinding.Error.Basic

namespace RecordBinding

/-- The parts of a datum for a layout with one part on each line. -/
inductive Layout
  | atom (text : String)
  | wrapped (name : String) (content : Layout)
  | record (name : String) (fields : List (String × Layout))
  | items (items : List Layout)

namespace Layout

def margin (depth : Nat) : String := String.ofList (List.replicate (4 * depth) ' ')

mutual

/-- Every nested part is indented by four and ends with a comma. -/
def render (depth : Nat) : Layout → String
  | atom text => text
  | wrapped name content =>
    name ++ "(\n" ++ margin (depth + 1) ++ render (depth + 1) content ++ ",\n" ++
      margin depth ++ ")"
  | record name fields =>
    name ++ " \x7b\n" ++ renderFields (depth + 1) fields ++ margin depth ++ "\x7d"
  | items [] => "[]"
  | items parts => "[\n" ++ renderItems (depth + 1) parts ++ margin depth ++ "]"

def renderFields (depth : Nat) : List (String × Layout) → String
  | [] => ""
  | (name, part) :: rest =>
    margin depth ++ name ++ ": " ++ render depth part ++ ",\n" ++ renderFields depth rest

def renderItems (depth : Nat) : List Layout → String
  | [] => ""
  | part :: rest => margin depth ++ render depth part ++ ",\n" ++ renderItems depth rest

end

/-- Text between quotes of either kind: only a mark at its very beginning has
nothing to attach to. -/
def contextText (s : String) : String :=
  let escape (first : Bool) (c : Char) : String :=
    if c = singleQuote then escapeChar singleQuote c
    else if isCombining c ∧ !first then c.toString
    else escapeChar doubleQuote c
  match s.toList with
  | [] => "\x22\x22"
  | c :: rest => "\x22" ++ escape true c ++ String.join (rest.map (escape false)) ++ "\x22"

end Layout

mutual

def Value.layout : Value → Layout
  | .null => .atom "Null"
  | .bool b => .wrapped "Bool" (.atom (toString b))
  | .int kind n => .wrapped kind.variant (.atom (toString n.val))
  | .single x => .wrapped "F32" (.atom x.debugText)
  | .double x => .wrapped "F64" (.atom x.debugText)
  | .decimal d => .wrapped "Decimal" (.atom d.display)
  | .char c => .wrapped "Char" (.atom (quoteChar c))
  | .string s => .wrapped "String" (.atom (quoteString s))
  | .bytes bs => .wrapped "Bytes" (.items (bs.map fun b => .atom (toString b.toNat)))
  | .dateTime t => .wrapped "DateTime" (.atom (t.text "T"))
  | .dateTimeOffset t => .wrapped "DateTimeOffset" (.atom (t.text "T" ""))
  | .timeSpan t =>
    .wrapped "TimeSpan" (.record "TimeDelta"
      [("secs", .atom (toString t.seconds)), ("nanos", .atom (toString t.subsecond))])
  | .guid id => .wrapped "Guid" (.atom id.text)
  | .enum tag =>
    .wrapped "Enum" (.record "ValueEnum"
      [("ty", .atom (quoteString tag.type)), ("ordinal", .atom (toString tag.ordinal))])
  | .list items => .wrapped "List" (.items (layoutAll items))

def Value.layoutAll : List Value → List Layout
  | [] => []
  | v :: rest => Value.layout v :: Value.layoutAll rest

end

/-- A foreign cause with the messages beneath it, innermost last. -/
def foreignLayout (message : String) : List String → Layout
  | [] => .atom (quoteString message)
  | next :: rest =>
    .record "Error" [("context", .atom (Layout.contextText message)),
      ("source", foreignLayout next rest)]

def Cause.layout : Cause → Layout
  | .foreign message beneath => .wrapped "Anyhow" (foreignLayout message beneath)
  | .adhoc message => .wrapped "Adhoc" (.record "AdhocError" [("message", .atom (quoteString message))])
  | .conversion value target =>
    .wrapped "TypeConversion" (.record "TypeConversionError"
      [("value", value.layout), ("to_type", .atom (quoteString target))])
  | .column field =>
    .wrapped "BindColumn" (.record "BindColumnError" [("field", .atom (quoteString field))])
  | .arity expected actual =>
    .wrapped "RowArity" (.record "RowArityError"
      [("expected", .atom (toString expected)), ("actual", .atom (toString actual))])

/-- Each link of the chain holds the next one as its cause. -/
def layoutChain (root : Cause) : List Cause → Layout
  | [] => .record "Error" [("kind", root.layout), ("cause", .atom "None")]
  | context :: rest =>
    .record "Error" [("kind", context.layout), ("cause", .wrapped "Some" (layoutChain root rest))]

def Error.pretty (e : Error) : String := (layoutChain e.root e.contexts).render 0

end RecordBinding
