import RecordBinding.Declaration.Literal
import RecordBinding.Declaration.Reading

namespace RecordBinding

/-- The largest position of an unnamed field. -/
def maxIndex : Nat := 4294967295

/-- The position that a whole number writes. It may be written in any base, but has
neither sign nor suffix. -/
def indexOfWhole (negative : Bool) (text : List Char) (value : Nat) : Except Problem Nat :=
  if Literal.isSuffixed text then .error (.expected false ["unsuffixed integer"])
  else if negative then .error .notDigits
  else if value ≤ maxIndex then .ok value
  else .error .numberTooLarge

/-- The position that one part of a fractional number writes. Each part is taken as a
number of its own. -/
def indexOfPart (negative : Bool) (text : List Char) : Except Problem Nat :=
  match Literal.read? text with
  | some (⟨_, .integer value⟩, []) => indexOfWhole negative text value
  | some _ => .error (.expected false ["integer literal"])
  | none => .error .unreadablePart

def indexToken (index : Nat) : Token := .literal ⟨toString index, .integer index⟩

/-- Two positions in a row look like a fractional number. The second part is missing
when the number ends in its point. -/
def indicesOfFraction (negative : Bool) (text : List Char) : Except Problem (List Nat × Bool) := do
  let before := text.takeWhile (· != '.')
  let first ← indexOfPart negative before
  match text.drop (before.length + 1) with
  | [] => return ([first], before.length < text.length)
  | after => return ([first, ← indexOfPart false after], false)

namespace Reader

/-- A whole or fractional number at the head of the tokens, and its sign. -/
def number? : List Token → Option (Bool × Literal)
  | .literal lit :: _ => if lit.text.toList.head?.any Char.isDigit then some (false, lit) else none
  | .punct '-' _ :: .literal lit :: _ =>
    if lit.text.toList.head?.any Char.isDigit then some (true, lit) else none
  | _ => none

/-- The name or the position of a field, and whether it is a name. A position is
copied in its shortest form. -/
def member : Reader Bool := do
  if ← sees isName then
    take 1
    return true
  else
    match number? (← input) with
    | some (negative, ⟨text, .integer value⟩) =>
      let index ← indexOfWhole negative text.toList value
      uncopied literal
      write [indexToken index]
      return false
    | _ => expected ["identifier", "integer"]

/-- Positions that are written as a fractional number, with the points between them.
Whether a point is left for a member to follow is told, if there is such a number. -/
def fractionalMembers? : Reader (Option Bool) := do
  match number? (← input) with
  | some (negative, ⟨text, .other⟩) =>
    let (indices, pointLeft) ← indicesOfFraction negative text.toList
    uncopied literal
    let tokens := indices.map indexToken
    write (tokens.intersperse (.punct '.' false) ++ if pointLeft then [.punct '.' false] else [])
    return some pointLeft
  | _ => return none

end Reader

end RecordBinding
