import RecordBinding.Field.EnumType

namespace RecordBinding.Sample

/-- Counted from zero, in the default representation. -/
def dude : EnumType where
  ident := "Dude"
  repr := .isize
  variants := [⟨"FirstDude", 0⟩, ⟨"SecondDude", 1⟩, ⟨"Third", 2⟩]
  other := none
  fits := by decide
  distinct := by decide
  inhabited := by decide

/-- Undeclared colours are kept. -/
def color : EnumType where
  ident := "Color"
  repr := .u8
  variants := [⟨"Red", 1⟩, ⟨"Green", 2⟩, ⟨"Blue", 4⟩]
  other := some "Other"
  fits := by decide
  distinct := by decide
  inhabited := by decide

/-- Zero is in the middle. -/
def level : EnumType where
  ident := "Level"
  repr := .i16
  variants := [⟨"Low", -1⟩, ⟨"Mid", 0⟩, ⟨"High", 1⟩]
  other := none
  fits := by decide
  distinct := by decide
  inhabited := by decide

/-- The ends of a 64-bit range, and no zero. -/
def big : EnumType where
  ident := "Big"
  repr := .i64
  variants := [⟨"Min", -9223372036854775808⟩, ⟨"Neg", -5⟩, ⟨"Next", -4⟩, ⟨"Max", 9223372036854775807⟩]
  other := none
  fits := by decide
  distinct := by decide
  inhabited := by decide

/-- The end of the widest unsigned range, with room for all else. -/
def wide : EnumType where
  ident := "Wide"
  repr := .u64
  variants := [⟨"Top", 18446744073709551615⟩, ⟨"One", 1⟩]
  other := some "Unknown"
  fits := by decide
  distinct := by decide
  inhabited := by decide

/-- Neither zero nor room for it. -/
def gap : EnumType where
  ident := "Gap"
  repr := .isize
  variants := [⟨"A", 5⟩, ⟨"B", 7⟩]
  other := none
  fits := by decide
  distinct := by decide
  inhabited := by decide

/-- Named like keywords. -/
def keyword : EnumType where
  ident := "r#Match"
  repr := .i8
  variants := [⟨"Zero", 0⟩, ⟨"Low", -128⟩, ⟨"r#Else", 127⟩]
  other := none
  fits := by decide
  distinct := by decide
  inhabited := by decide

end RecordBinding.Sample
