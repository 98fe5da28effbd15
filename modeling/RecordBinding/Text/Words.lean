import RecordBinding.Text.CaseMapping
import RecordBinding.Text.Cased
import RecordBinding.Text.Alphanumeric

namespace RecordBinding

/-- The stretches between characters that are neither letters nor digits. -/
def pieces : List Char → List (List Char)
  | [] => [[]]
  | c :: rest =>
    if isAlphanumeric c then
      match pieces rest with
      | [] => [[c]]
      | piece :: others => (c :: piece) :: others
    else [] :: pieces rest

/-- The case of the latest letter since the word began. -/
inductive WordCase
  | start | lower | upper
  deriving DecidableEq

/-- Digits keep the case of what precedes them. -/
def WordCase.after (mode : WordCase) (c : Char) : WordCase :=
  if isLowercase c then .lower else if isUppercase c then .upper else mode

/-- The words of a piece, of which some characters are already read, last one
first. A word ends between a small letter and a capital, and before the last of
several capitals when a small letter follows it. -/
def wordsFrom (mode : WordCase) (read : List Char) : List Char → List (List Char)
  | [] => []
  | [c] => [(c :: read).reverse]
  | c :: next :: rest =>
    if mode.after c = .lower ∧ isUppercase next then
      (c :: read).reverse :: wordsFrom .start [] (next :: rest)
    else if mode = .upper ∧ isUppercase c ∧ isLowercase next then
      read.reverse :: wordsFrom .start [c] (next :: rest)
    else wordsFrom (mode.after c) (c :: read) (next :: rest)

/-- The words of an identifier, in order. -/
def words (name : String) : List (List Char) := (pieces name.toList).flatMap (wordsFrom .start [])

/-- A word in small letters. Its last letter, if a capital sigma, takes the form
used at the end of words. -/
def lowerWord : List Char → List Char
  | [] => []
  | [c] => if c = 'Σ' then ['ς'] else lowerChar c
  | c :: rest => lowerChar c ++ lowerWord rest

def upperWord (word : List Char) : List Char := word.flatMap upperChar

/-- A word with a capital in front. -/
def capitalWord : List Char → List Char
  | [] => []
  | c :: rest => upperChar c ++ lowerWord rest

/-- Words put together again with a separator between them. -/
def joinWords (separator : List Char) (parts : List (List Char)) : String :=
  String.ofList (separator.intercalate parts)

end RecordBinding
