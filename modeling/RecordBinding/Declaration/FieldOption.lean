import RecordBinding.Declaration.Grammar
import RecordBinding.Declaration.RowOption
import RecordBinding.Declaration.RenameRule

namespace RecordBinding

/-- The value of an option: a string after an equals sign. -/
def stringValue : Reader String := do
  Reader.punct "="
  match ← Reader.input with
  | .literal ⟨_, .string value⟩ :: _ =>
    Reader.take 1
    return value
  | _ => Reader.expected ["string literal"]

/-- What may be said of a field. -/
inductive FieldOption
  | rename (name : String)
  | skip
  | readOnly
  | writeOnly
  | flatten
  | enum
  deriving DecidableEq

namespace FieldOption

def name : FieldOption → String
  | rename _ => "rename"
  | skip => "skip"
  | readOnly => "read_only"
  | writeOnly => "write_only"
  | flatten => "flatten"
  | enum => "enum"

def reader? : String → Option (Reader FieldOption)
  | "rename" => some (rename <$> stringValue)
  | "skip" => some (pure skip)
  | "read_only" => some (pure readOnly)
  | "write_only" => some (pure writeOnly)
  | "flatten" => some (pure flatten)
  | "enum" => some (pure enum)
  | _ => none

def grammar : OptionGrammar FieldOption := ⟨.field, name, reader?⟩

/-- The options that say how a field is bound, and so make no sense for one that is
not bound, or not by a name of its own. -/
def isBinding : FieldOption → Bool
  | rename _ | readOnly | writeOnly | enum => true
  | skip | flatten => false

/-- Options that exclude each other. -/
def conflicts (given : List FieldOption) : List Problem :=
  let skipped := given.contains skip
  let flattened := given.contains flatten
  let binding := given.any isBinding
  (if skipped && (flattened || binding) then [.skipCombined] else []) ++
    (if given.contains readOnly && given.contains writeOnly then [.accessCombined] else []) ++
    (if flattened && !skipped && binding then [.flattenCombined] else [])

/-- Attributes read one after the other. A fault in one does not keep the next from
being read. -/
def collect (given : List FieldOption) : List Attribute → List FieldOption × List Problem
  | [] => (given, [])
  | attr :: rest =>
    let (given, problem) := grammar.addAttribute given attr
    let (given, problems) := collect given rest
    (given, problem.toList ++ problems)

/-- The options that a field's attributes give, or everything wrong with them. -/
def ofAttributes (attributes : List Attribute) : Except (List Problem) (List FieldOption) :=
  let (given, problems) := collect [] (attributes.filter (·.isRow))
  match problems ++ conflicts given with
  | [] => .ok given
  | problems => .error problems

def rename? (given : List FieldOption) : Option String :=
  given.findSome? fun
    | rename name => some name
    | _ => none

end FieldOption

/-- What may be said of a type with fields. -/
inductive ContainerOption
  | renameAll (rule : RenameRule)
  | constructor (path : List Token)
  | noConstructor

namespace ContainerOption

def name : ContainerOption → String
  | renameAll _ => "rename_all"
  | constructor _ => "constructor"
  | noConstructor => "no_constructor"

def ruleValue : Reader RenameRule := do
  match RenameRule.ofSpelling? (← stringValue) with
  | some rule => return rule
  | none => throw .unknownRenameRule

def constructorValue : Reader (List Token) := do
  Reader.punct "="
  let p ← Reader.path .forAnyText false
  return p.tokens

def reader? : String → Option (Reader ContainerOption)
  | "rename_all" => some (renameAll <$> ruleValue)
  | "constructor" => some (constructor <$> constructorValue)
  | "no_constructor" => some (pure noConstructor)
  | _ => none

def grammar : OptionGrammar ContainerOption := ⟨.container, name, reader?⟩

def rename? (given : List ContainerOption) : Option RenameRule :=
  given.findSome? fun
    | renameAll rule => some rule
    | _ => none

def constructor? (given : List ContainerOption) : Option (List Token) :=
  given.findSome? fun
    | constructor path => some path
    | _ => none

def isConstructor : ContainerOption → Bool
  | constructor _ => true
  | _ => false

def isNoConstructor : ContainerOption → Bool
  | noConstructor => true
  | _ => false

/-- Attributes read one after the other. A constructor is dropped as soon as it is
refused, so that it is not refused again after the next attribute. -/
def collect (given : List ContainerOption) :
    List Attribute → List ContainerOption × List Problem
  | [] => (given, [])
  | attr :: rest =>
    let (given, problem) := grammar.addAttribute given attr
    let conflict := given.any isNoConstructor && given.any isConstructor
    let (given, problems) :=
      collect (if conflict then given.filter (!·.isConstructor) else given) rest
    (given, problem.toList ++ (if conflict then [.constructorCombined] else []) ++ problems)

/-- The options that a type's attributes give, or everything wrong with them. -/
def ofAttributes (attributes : List Attribute) : Except (List Problem) (List ContainerOption) :=
  match collect [] (attributes.filter (·.isRow)) with
  | (given, []) => .ok given
  | (_, problems) => .error problems

end ContainerOption

/-- What may be said of a variant. -/
inductive VariantOption
  | other

namespace VariantOption

def name : VariantOption → String
  | other => "other"

def reader? : String → Option (Reader VariantOption)
  | "other" => some (pure other)
  | _ => none

def grammar : OptionGrammar VariantOption := ⟨.variant, name, reader?⟩

/-- Whether a variant is marked. Reading stops at the first fault. -/
def isOther (given : List VariantOption) : List Attribute → Except Problem Bool
  | [] => .ok !given.isEmpty
  | attr :: rest =>
    if attr.isRow then
      match grammar.addAttribute given attr with
      | (_, some problem) => .error problem
      | (given, none) => isOther given rest
    else isOther given rest

end VariantOption

end RecordBinding
