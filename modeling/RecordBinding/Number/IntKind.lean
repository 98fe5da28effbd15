namespace RecordBinding

/-- The ten fixed-width integer types. Those of pointer size have 64 bits. -/
inductive IntKind
  | i8 | i16 | i32 | i64 | isize | u8 | u16 | u32 | u64 | usize
  deriving DecidableEq, Repr

namespace IntKind

def all : List IntKind := [i8, i16, i32, i64, isize, u8, u16, u32, u64, usize]

def isSigned : IntKind → Bool
  | i8 | i16 | i32 | i64 | isize => true
  | u8 | u16 | u32 | u64 | usize => false

def width : IntKind → Nat
  | i8 | u8 => 8
  | i16 | u16 => 16
  | i32 | u32 => 32
  | i64 | isize | u64 | usize => 64

def min (kind : IntKind) : Int := if kind.isSigned then -(1 <<< (kind.width - 1) : Nat) else 0

def max (kind : IntKind) : Int :=
  if kind.isSigned then (1 <<< (kind.width - 1) : Nat) - 1 else (1 <<< kind.width : Nat) - 1

/-- The number can be held by the type. -/
def Fits (kind : IntKind) (n : Int) : Prop := kind.min ≤ n ∧ n ≤ kind.max

instance (kind : IntKind) (n : Int) : Decidable (kind.Fits n) :=
  inferInstanceAs (Decidable (_ ∧ _))

theorem zero_fits (kind : IntKind) : kind.Fits 0 := by cases kind <;> decide

/-- The numbers of the type. -/
abbrev Number (kind : IntKind) : Type := { n : Int // kind.Fits n }

def zero (kind : IntKind) : kind.Number := ⟨0, kind.zero_fits⟩

/-- Narrowing is checked: a number outside the range is refused, not wrapped. -/
def ofInt? (kind : IntKind) (n : Int) : Option kind.Number :=
  if fits : kind.Fits n then some ⟨n, fits⟩ else none

theorem ofInt?_val {kind : IntKind} (n : kind.Number) : kind.ofInt? n.val = some n :=
  dif_pos n.property

theorem ofInt?_eq_some_iff {kind : IntKind} {n : Int} {number : kind.Number} :
    kind.ofInt? n = some number ↔ n = number.val := by
  unfold ofInt?
  split
  · simp [Subtype.ext_iff, eq_comm]
  · rename_i unfit
    simp only [reduceCtorEq, false_iff]
    rintro rfl
    exact unfit number.property

/-- The type's name, as a declaration writes it. -/
def spelling : IntKind → String
  | i8 => "i8" | i16 => "i16" | i32 => "i32" | i64 => "i64" | isize => "isize"
  | u8 => "u8" | u16 => "u16" | u32 => "u32" | u64 => "u64" | usize => "usize"

/-- The name of the value variant that holds the type. -/
def variant : IntKind → String
  | i8 => "I8" | i16 => "I16" | i32 => "I32" | i64 => "I64" | isize => "Isize"
  | u8 => "U8" | u16 => "U16" | u32 => "U32" | u64 => "U64" | usize => "Usize"

def ofSpelling? (text : String) : Option IntKind := all.find? (·.spelling == text)

theorem ofSpelling?_spelling (kind : IntKind) : ofSpelling? kind.spelling = some kind := by
  cases kind <;> decide

def ofVariant? (text : String) : Option IntKind := all.find? (·.variant == text)

end IntKind

end RecordBinding
