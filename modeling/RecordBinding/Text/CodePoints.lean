namespace RecordBinding

/-- A set of code points, given by the points at which membership changes. -/
structure CodePointSet where
  changes : List Nat

/-- A point is a member when an odd number of changes lies at or below it. -/
def CodePointSet.contains (set : CodePointSet) (c : Char) : Bool :=
  (set.changes.takeWhile (· ≤ c.toNat)).length % 2 == 1

/-- Every `step`-th code point from `first` to `last`. Cased letters often
alternate, so most runs of one case have a step of two. -/
structure SteppedRun where
  first : Nat
  last : Nat
  step : Nat

def SteppedRun.contains (run : SteppedRun) (c : Char) : Bool :=
  run.first ≤ c.toNat && c.toNat ≤ run.last && (c.toNat - run.first) % run.step == 0

/-- A run whose members are mapped at a fixed distance, the first one to `target`. -/
structure ShiftedRun extends SteppedRun where
  target : Nat

def ShiftedRun.map (run : ShiftedRun) (c : Char) : Char :=
  Char.ofNat (c.toNat - run.first + run.target)

/-- The image of a code point under the first run that holds it. -/
def shiftBy? (runs : List ShiftedRun) (c : Char) : Option Char :=
  (runs.find? (·.contains c)).map (·.map c)

end RecordBinding
