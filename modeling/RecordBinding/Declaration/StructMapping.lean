import RecordBinding.Declaration.Item
import RecordBinding.Declaration.FieldOption
import RecordBinding.Declaration.Classification
import RecordBinding.Field.EnumType
import RecordBinding.Text.Folding

namespace RecordBinding

/-- A field is bound under its name, or else through the fields of its type. -/
inductive FieldBinding
  | named (type : ClassifiedType)
  | flattened (type : TypeExpr)

/-- A field that takes part in binding. The index counts all fields of the type. -/
structure MappedField where
  index : Nat
  ident : String
  name : String
  binding : FieldBinding
  options : List FieldOption

namespace MappedField

def isFlattened (f : MappedField) : Bool :=
  match f.binding with
  | .flattened _ => true
  | .named _ => false

def isSettable (f : MappedField) : Bool := !f.options.contains .readOnly

def isReadable (f : MappedField) : Bool := !f.options.contains .writeOnly

/-- Rows bind what can be both set and read. -/
def isColumn (f : MappedField) : Bool := f.isSettable && f.isReadable

/-- A name that is given wins over one that a rule makes. -/
def boundName (ident : String) (given : List FieldOption) (rule : Option RenameRule) : String :=
  match FieldOption.rename? given with
  | some name => name
  | none =>
    match rule with
    | some rule => rule.apply (plainName ident)
    | none => plainName ident

/-- A declared field as it is bound, unless it is left out. -/
def ofField? (rule : Option RenameRule) (index : Nat) (f : DeclaredField) :
    Except (List Problem) (Option MappedField) := do
  let given ← FieldOption.ofAttributes f.attributes
  if given.contains .skip then return none
  let binding := if given.contains .flatten then FieldBinding.flattened f.type
    else .named (.classify (given.contains .enum) f.type)
  return some
    { index, ident := f.ident, name := boundName f.ident given rule, binding, options := given }

/-- All fields that are bound, and all that is wrong with any field. -/
def ofFields (rule : Option RenameRule) (index : Nat) :
    List DeclaredField → List MappedField × List Problem
  | [] => ([], [])
  | f :: rest =>
    let (fields, problems) := ofFields rule (index + 1) rest
    match ofField? rule index f with
    | .ok (some field) => (field :: fields, problems)
    | .ok none => (fields, problems)
    | .error found => (fields, found ++ problems)

/-- Names must stay distinct once case is ignored. A field is reported together with
the first one that has its name. -/
def collisions (earlier : List MappedField) : List MappedField → List Problem
  | [] => []
  | f :: rest =>
    (match earlier.find? (lowerText ·.name == lowerText f.name) with
      | some first => [.nameCollision f.ident f.name first.ident first.name]
      | none => []) ++ collisions (earlier ++ [f]) rest

end MappedField

/-- How an instance comes about before rows are bound to it. -/
inductive Construction
  | default
  | call (path : List Token)
  | impossible

/-- A type with named fields, as it is bound. -/
structure StructMapping where
  ident : String
  fields : List MappedField
  construction : Construction

namespace StructMapping

def name (m : StructMapping) : String := plainName m.ident

def isConstructible (m : StructMapping) : Bool :=
  match m.construction with
  | .impossible => false
  | _ => true

def columns (m : StructMapping) : List MappedField := m.fields.filter (·.isColumn)

def constructionOf (given : List ContainerOption) : Construction :=
  if given.any (·.isNoConstructor) then .impossible
  else
    match ContainerOption.constructor? given with
    | some path => .call path
    | none => .default

/-- The mapping that a declaration describes. What is wrong with the options of the
type comes first, then what is wrong with each field's, then the collisions. Names
are made without a rule when the options of the type are refused. -/
def ofItem (item : Item) : Except (List Problem) StructMapping :=
  match item.body with
  | .fields declared =>
    if item.generic then .error [.structGenerics]
    else
      let (given, found) : List ContainerOption × List Problem :=
        match ContainerOption.ofAttributes item.attributes with
        | .ok given => (given, [])
        | .error found => ([], found)
      let (fields, problems) := MappedField.ofFields (ContainerOption.rename? given) 0 declared
      match found ++ problems ++ MappedField.collisions [] (fields.filter (!·.isFlattened)) with
      | [] => .ok { ident := item.ident, fields, construction := constructionOf given }
      | refused => .error refused
  | .unnamedFields => .error [.fieldsUnnamed]
  | .variants _ => .error [.notStruct]
  | .union => .error [.notStruct]

end StructMapping

end RecordBinding
