import RecordBinding.Field.FieldType

namespace RecordBinding

namespace LeafType

/-- The value holds a datum of the type as it stands. -/
def isExactly : LeafType → Value → Bool
  | bool, .bool _ => true
  | int kind, .int other _ => other == kind
  | single, .single _ => true
  | double, .double _ => true
  | decimal, .decimal _ => true
  | char, .char _ => true
  | string, .string _ => true
  | dateTime, .dateTime _ => true
  | dateTimeOffset, .dateTimeOffset _ => true
  | utc, .dateTimeOffset _ => true
  | timeSpan, .timeSpan _ => true
  | duration, .timeSpan t => t.toDuration?.isSome
  | guid, .guid _ => true
  | value, _ => true
  | enum _ type, v => type.isExactly v
  | _, _ => false

/-- The datum of a value that holds one as it stands, or the value unchanged.
Nothing is exactly of a type the library does not know. -/
def fromExact : (t : LeafType) → Value → Except Value t.Carrier
  | bool, .bool b => .ok b
  | int kind, .int other n => if same : other = kind then .ok (same ▸ n) else .error (.int other n)
  | single, .single x => .ok x
  | double, .double x => .ok x
  | decimal, .decimal d => .ok d
  | char, .char c => .ok c
  | string, .string s => .ok s
  | dateTime, .dateTime t => .ok t
  | dateTimeOffset, .dateTimeOffset t => .ok t
  | utc, .dateTimeOffset t => .ok t.instant
  | timeSpan, .timeSpan t => .ok t
  | duration, .timeSpan t =>
    match t.toDuration? with
    | some d => .ok d
    | none => .error (.timeSpan t)
  | guid, .guid id => .ok id
  | value, v => .ok v
  | enum _ type, v => type.fromExact v
  | _, v => .error v

/-- For scalars both tests of a value are the same. -/
theorem isExactly_ofScalar (t : ScalarType) (v : Value) :
    (ofScalar t).isExactly v = v.isOf t := by
  cases v with
  | int other n =>
    cases t with
    | int kind =>
      rw [ofScalar, isExactly, Value.isOf, Value.scalar?, Option.any_some, Bool.eq_iff_iff,
        beq_iff_eq, beq_iff_eq, ScalarType.int.injEq]
    | _ => rfl
  | _ => cases t <;> rfl

end LeafType

namespace FieldType

/-- The value holds a datum of the type without any conversion. A byte buffer is
an array of bytes. -/
def isExactly : FieldType → Value → Bool
  | leaf type, v => type.isExactly v
  | option inner, v => v.isNull || isExactly inner v
  | array item, .list vs => vs.all (isExactly item)
  | array item, .bytes _ => isExactly item (.byte 0)
  | array _, _ => false

/-- The datum of a value that holds one without any conversion, or the value
handed back. -/
def fromExact : (t : FieldType) → Value → Except Value t.Carrier
  | leaf type, v => type.fromExact v
  | option _, .null => .ok none
  | option inner, v => (fromExact inner v).map some
  | array item, v =>
    if isExactly (array item) v then
      match v with
      | .list vs => vs.mapM (fromExact item)
      | .bytes bs => bs.mapM fun b => fromExact item (.byte b)
      | v => .error v
    else .error v

end FieldType

/-- A list reread as an array, when every item is exactly of the item type. Items
are never converted. -/
def Value.intoArray (item : FieldType) (v : Value) : Except Error (List item.Carrier) :=
  match (FieldType.array item).fromExact v with
  | .ok xs => .ok xs
  | .error back => .error (.conversion back (FieldType.array item).path)

end RecordBinding
