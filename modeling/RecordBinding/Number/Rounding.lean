namespace RecordBinding

/-- The whole number nearest to `n / d`. Halfway between two of them the even
one is taken, so that rounding many numbers does not drift upwards. -/
def roundDiv (n d : Nat) : Nat :=
  if 2 * (n % d) < d ∨ 2 * (n % d) = d ∧ n / d % 2 = 0 then n / d else n / d + 1

theorem roundDiv_one (n : Nat) : roundDiv n 1 = n := by
  simp [roundDiv, Nat.mod_one]

theorem le_roundDiv (n d : Nat) : n / d ≤ roundDiv n d := by
  unfold roundDiv; split <;> omega

theorem roundDiv_le (n d : Nat) : roundDiv n d ≤ n / d + 1 := by
  unfold roundDiv; split <;> omega

/-- The whole number nearest to `n / d`, halfway cases going away from zero. -/
def roundDivAway (n d : Nat) : Nat := (2 * n + d) / (2 * d)

/-- A magnitude with a sign put in front. -/
def withSign (negative : Bool) (magnitude : Nat) : Int :=
  if negative then -(magnitude : Int) else magnitude

end RecordBinding
