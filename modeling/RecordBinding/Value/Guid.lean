namespace RecordBinding

/-- A globally unique identifier of 128 bits. -/
structure Guid where
  bits : Nat
  bits_lt : bits < 1 <<< 128
  deriving DecidableEq

namespace Guid

def nil : Guid := ⟨0, by decide⟩

/-- Group lengths of the written form. -/
def groups : List Nat := [8, 4, 4, 4, 12]

def hexDigit? (c : Char) : Option Nat :=
  if '0' ≤ c ∧ c ≤ '9' then some (c.toNat - '0'.toNat)
  else if 'a' ≤ c ∧ c ≤ 'f' then some (c.toNat - 'a'.toNat + 10)
  else if 'A' ≤ c ∧ c ≤ 'F' then some (c.toNat - 'A'.toNat + 10)
  else none

/-- The number written by hexadecimal digits of either case. -/
def hexNumber? (digits : List Char) : Option Nat :=
  digits.foldlM (fun n c => (hexDigit? c).map (n * 16 + ·)) 0

/-- Lowercase hexadecimal digits, with zeros in front up to a width. -/
def hexText (width n : Nat) : List Char :=
  let digits := Nat.toDigits 16 n
  List.replicate (width - digits.length) '0' ++ digits

/-- Text cut into groups of the given lengths. -/
def cut (digits : List Char) : List Nat → List (List Char)
  | [] => []
  | n :: rest => digits.take n :: cut (digits.drop n) rest

def text (id : Guid) : String :=
  String.ofList (['-'].intercalate (cut (hexText 32 id.bits) groups))

def ofText? (s : String) : Option Guid := do
  let digits := s.toList.filter (· != '-')
  let bits ← hexNumber? digits
  if bits_lt : bits < 1 <<< 128 then
    if digits.length = 32 then some ⟨bits, bits_lt⟩ else none
  else none

end Guid

end RecordBinding
