import RecordBinding.Text.CaseMapping
import RecordBinding.Text.Cased

namespace RecordBinding

def isAscii (cs : List Char) : Bool := cs.all (·.toNat < 128)

/-- Character by character comparison that is right for ASCII text alone. -/
def sameAsciiLetters : List Char → List Char → Bool
  | [], [] => true
  | a :: as, b :: bs => a.toLower == b.toLower && sameAsciiLetters as bs
  | _, _ => false

/-- The lowercase mappings of all characters, one after the other. -/
def foldCase (cs : List Char) : List Char := cs.flatMap lowerChar

/-- How names are matched. ASCII text is compared in place, any other text by
its folded characters, of which there may be more than characters. -/
def eqIgnoreCase (a b : String) : Bool :=
  if isAscii a.toList && isAscii b.toList then sameAsciiLetters a.toList b.toList
  else foldCase a.toList == foldCase b.toList

/-- Past what does not end a word there is a cased letter. -/
def meetsCased (cs : List Char) : Bool :=
  match cs.dropWhile isCaseIgnorable with
  | [] => false
  | c :: _ => isCased c

/-- Lowercase text, given the characters before it, last one first. A capital
sigma at the end of a word has a small form of its own. -/
def lowerAfter (before : List Char) : List Char → List Char
  | [] => []
  | c :: rest =>
    (if c = 'Σ' then [if meetsCased before && !meetsCased rest then 'ς' else 'σ']
      else lowerChar c) ++ lowerAfter (c :: before) rest

/-- The lowercase form of a text as a whole, which knows where words end. -/
def lowerText (s : String) : String := String.ofList (lowerAfter [] s.toList)

end RecordBinding
