import RecordBinding.Record.Fields

namespace RecordBinding.Fields

/-- A record with one field replaced, named by the identifiers that lead to it
through flattened records. It serves to write records down, so it looks at
neither names nor access. -/
def place : (fields : Fields) → List String → Value → fields.Instance → fields.Instance
  | nil, _, _, record => record
  | leaf field rest, idents, v, (x, others) =>
    if idents = [field.ident] then (field.type.coerceOrDefault v, others)
    else (x, rest.place idents v others)
  | flatten ident _ inner rest, idents, v, (record, others) =>
    match idents with
    | [] => (record, others)
    | first :: deeper =>
      if first = ident then (inner.place deeper v record, others)
      else (record, rest.place idents v others)

/-- The default record with some fields replaced. -/
def written (fields : Fields) (placements : List (List String × Value)) : fields.Instance :=
  placements.foldl (fun record (idents, v) => fields.place idents v record) fields.default

end RecordBinding.Fields
