import RecordBinding.Field.Exact

namespace RecordBinding

/-- The items of a list converted in order, up to the first that is refused. -/
def convertItems {m : Type → Type} [Monad m] {α : Type} (f : Value → m (Except Error α)) :
    List Value → m (Except Error (List α))
  | [] => pure (.ok [])
  | v :: rest => do
    match ← f v with
    | .error e => pure (.error e)
    | .ok x =>
      match ← convertItems f rest with
      | .error e => pure (.error e)
      | .ok xs => pure (.ok (x :: xs))

/-- Each item of a list converted on its own. A byte buffer is the list of its
bytes, and any other value is refused, as no array of the type of this name,
without converting anything. -/
def Value.convertEach {m : Type → Type} [Monad m] {α : Type} (target : String)
    (f : Value → m (Except Error α)) : Value → m (Except Error (List α))
  | .list vs => convertItems f vs
  | .bytes bs => convertItems f (bs.map .byte)
  | v => pure (.error (.conversion v target))

/-- A value converted item by item to an array of items of the type. -/
def Value.intoArrayWith {m : Type → Type} [Monad m] (item : FieldType)
    (f : Value → m (Except Error item.Carrier)) (v : Value) :
    m (Except Error (List item.Carrier)) :=
  v.convertEach (FieldType.array item).path f

namespace LeafType

/-- How a field of the type takes a value. A value that already stores the type
is taken as it is, before any conversion is tried; an enumerated type goes
through its representation. -/
def coerce : (t : LeafType) → Value → Except Error t.Carrier
  | string, .string s => .ok s
  | string, v => .error (.conversion v (name .string))
  | enum _ type, v =>
    match (int type.repr).tryFrom v with
    | .ok repr => type.fromRepr repr
    | .error e => .error e
  | t, v =>
    match t.stored? v with
    | some x => .ok x
    | none => t.tryFrom v

end LeafType

namespace FieldType

/-- How a field of the type takes a value. Arrays are only reread, unless their
items are of types the library does not know. -/
def coerce : (t : FieldType) → Value → Except Error t.Carrier
  | leaf type, v => type.coerce v
  | option _, .null => .ok none
  | option inner, v => (coerce inner v).map some
  | array item, v =>
    if item.containsOther then Value.intoArrayWith (m := Id) item (coerce item) v
    else v.intoArray item

/-- What a field holds after being set from a value: the default, if the value
does not convert. -/
def coerceOrDefault (t : FieldType) (v : Value) : t.Carrier :=
  match t.coerce v with
  | .ok x => x
  | .error _ => t.default

end FieldType

end RecordBinding
