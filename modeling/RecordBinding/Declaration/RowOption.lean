import RecordBinding.Declaration.Attribute

namespace RecordBinding

/-- The options that may be given in one place: what they are called, and how what
follows an option's name is read. -/
structure OptionGrammar (α : Type) where
  place : OptionPlace
  name : α → String
  reader? : String → Option (Reader α)

/-- Options as an attribute lists them, up to the first fault of its text. A fault
after an option's name has to wait until it is known that the option is new. -/
inductive OptionText (α : Type)
  | done
  | fault (problem : Problem)
  | faultAfter (name : String) (problem : Problem)
  | option (o : α) (rest : OptionText α)

namespace OptionGrammar

open Reader

variable {α : Type} (g : OptionGrammar α)

/-- The name of an option. It may be any word, even one that cannot be a name
elsewhere. Longer paths are allowed but name no option. -/
def optionPath : Reader (Option String) := do
  let leading ← punct? "::"
  if ← sees isAnyIdent then
    let first ← anyIdent
    let further ← many do
      if ← punct? "::" then return some (← anyIdent) else return none
    return if !leading && further.isEmpty then some first else none
  else if ← atEnd then expected ["nested attribute"]
  else if ← sees isLiteral then throw .optionIsLiteral
  else throw .optionIsNoName

/-- The end of an attribute's text. A group that was not read to its end is
refused here. -/
def atLast (r : Reading) : OptionText α :=
  match r.unread with
  | some delimiter => .fault (.unexpected (some delimiter))
  | none => .done

/-- The options of an attribute, with commas between them and perhaps one more after
the last. -/
def text (bound : Nat) (r : Reading) : OptionText α :=
  match bound with
  | 0 => .fault .nestedTooDeeply
  | bound + 1 =>
    if r.input.isEmpty then atLast r
    else
      match optionPath.run r with
      | .error p => .fault p
      | .ok (path, r) =>
        match path.bind fun name => (g.reader? name).map (name, ·) with
        | none => .fault (.unknownOption g.place)
        | some (name, reader) =>
          match reader.run r with
          | .error p => .faultAfter name p
          | .ok (o, r) =>
            if r.input.isEmpty then .option o (atLast r)
            else
              match (punct ",").run r with
              | .error p => .option o (.fault p)
              | .ok (_, r) => .option o (text bound r)

/-- Options added to those given before, until one is given twice or the text ends
in a fault. What was added until then stays. -/
def add (given : List α) : OptionText α → List α × Option Problem
  | .done => (given, none)
  | .fault p => (given, some p)
  | .faultAfter name p =>
    (given, some (if given.any (g.name · == name) then .duplicateOption name else p))
  | .option o rest =>
    if given.any (g.name · == g.name o) then (given, some (.duplicateOption (g.name o)))
    else add (given ++ [o]) rest

/-- What an attribute adds to the options given before it. -/
def addAttribute (given : List α) (attr : Attribute) : List α × Option Problem :=
  match attr.body with
  | .bare => (given, some (.argumentsMissing "row"))
  | .value => (given, some (.parenthesesMissing "row"))
  | .arguments tokens => g.add given (g.text (readingDepth tokens) (.start tokens))

end OptionGrammar

/-- Attributes that hold options. -/
def Attribute.isRow (attr : Attribute) : Bool := attr.name == some "row"

end RecordBinding
