namespace RecordBinding

/-- Days from 1 January 1970 to a date of the proleptic Gregorian calendar.
Years are counted from March, so that the leap day is the last of its year. -/
def dayOfDate (year month day : Int) : Int :=
  let shifted := if month ≤ 2 then year - 1 else year
  let era := shifted.fdiv 400
  let yearOfEra := shifted - era * 400
  let dayOfYear := (153 * (if 2 < month then month - 3 else month + 9) + 2) / 5 + day - 1
  era * 146097 + (yearOfEra * 365 + yearOfEra / 4 - yearOfEra / 100 + dayOfYear) - 719468

/-- Year, month and day of a day number. -/
def dateOfDay (number : Int) : Int × Nat × Nat :=
  let z := number + 719468
  let era := z.fdiv 146097
  let dayOfEra := z - era * 146097
  let yearOfEra := (dayOfEra - dayOfEra / 1460 + dayOfEra / 36524 - dayOfEra / 146096) / 365
  let dayOfYear := dayOfEra - (365 * yearOfEra + yearOfEra / 4 - yearOfEra / 100)
  let m := (5 * dayOfYear + 2) / 153
  let day := dayOfYear - (153 * m + 2) / 5 + 1
  let month := if m < 10 then m + 3 else m - 9
  (yearOfEra + era * 400 + (if month ≤ 2 then 1 else 0), month.toNat, day.toNat)

/-- The parts of a date and time as they are written. -/
structure DateTimeParts where
  year : Int
  month : Nat
  day : Nat
  hour : Nat
  minute : Nat
  second : Nat
  nano : Nat
  deriving DecidableEq

/-- A date and time without offset. A leap second is the second before it with
a whole second or more of nanoseconds. -/
structure DateTime where
  day : Int
  second : Nat
  nano : Nat
  second_lt : second < 86400
  nano_lt : nano < 2000000000
  deriving DecidableEq

namespace DateTime

def epoch : DateTime := ⟨0, 0, 0, by decide, by decide⟩

def ofParts? (p : DateTimeParts) : Option DateTime :=
  let day := dayOfDate p.year p.month p.day
  if valid : p.hour < 24 ∧ p.minute < 60 ∧ p.second < 60 ∧ p.nano < 2000000000 then
    if dateOfDay day = (p.year, p.month, p.day) then
      some ⟨day, (p.hour * 60 + p.minute) * 60 + p.second, p.nano, by omega, valid.2.2.2⟩
    else none
  else none

def parts (t : DateTime) : DateTimeParts :=
  let date := dateOfDay t.day
  ⟨date.1, date.2.1, date.2.2, t.second / 3600, t.second / 60 % 60, t.second % 60, t.nano⟩

/-- The time some seconds later. The fraction of the second stays, so a leap
second remains one. -/
def addSeconds (t : DateTime) (seconds : Int) : DateTime where
  day := t.day + (t.second + seconds).fdiv 86400
  second := ((t.second + seconds).fmod 86400).toNat
  nano := t.nano
  second_lt := by
    have := Int.fmod_lt_of_pos (t.second + seconds) (show (0 : Int) < 86400 by decide)
    omega
  nano_lt := t.nano_lt

/-- A number with at least so many digits. -/
def padded (width n : Nat) : String :=
  let digits := Nat.toDigits 10 n
  String.ofList (List.replicate (width - digits.length) '0' ++ digits)

/-- Four digits for a year, with a sign in front once they do not suffice. -/
def yearText (year : Int) : String :=
  if 0 ≤ year ∧ year ≤ 9999 then padded 4 year.natAbs
  else (if year < 0 then "-" else "+") ++ padded 4 year.natAbs

/-- Milli-, micro- or nanoseconds, whichever is the shortest exact one. -/
def fractionText (nano : Nat) : String :=
  if nano = 0 then ""
  else if nano % 1000000 = 0 then "." ++ padded 3 (nano / 1000000)
  else if nano % 1000 = 0 then "." ++ padded 6 (nano / 1000)
  else "." ++ padded 9 nano

/-- Date and time with a separator between them. A leap second counts as
second sixty. -/
def text (separator : String) (t : DateTime) : String :=
  let p := t.parts
  let second := if 1000000000 ≤ p.nano then p.second + 1 else p.second
  yearText p.year ++ "-" ++ padded 2 p.month ++ "-" ++ padded 2 p.day ++ separator ++
    padded 2 p.hour ++ ":" ++ padded 2 p.minute ++ ":" ++ padded 2 second ++
    fractionText (p.nano % 1000000000)

end DateTime

/-- A date and time with an offset from universal time, in seconds to the east.
The instant is kept, so equal instants are equal whatever the offset. -/
structure OffsetDateTime where
  instant : DateTime
  offset : Int
  deriving DecidableEq

namespace OffsetDateTime

def ofLocal (time : DateTime) (offset : Int) : OffsetDateTime := ⟨time.addSeconds (-offset), offset⟩

def localTime (t : OffsetDateTime) : DateTime := t.instant.addSeconds t.offset

/-- Sign, hours and minutes, and seconds where there are any. -/
def offsetText (offset : Int) : String :=
  let n := offset.natAbs
  (if offset < 0 then "-" else "+") ++ DateTime.padded 2 (n / 3600) ++ ":" ++
    DateTime.padded 2 (n / 60 % 60) ++
    (if n % 60 = 0 then "" else ":" ++ DateTime.padded 2 (n % 60))

def text (separator gap : String) (t : OffsetDateTime) : String :=
  t.localTime.text separator ++ gap ++ offsetText t.offset

end OffsetDateTime

end RecordBinding
