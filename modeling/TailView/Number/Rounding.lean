/-!
# Rounding quotients

A quotient of natural numbers is rounded to the nearest integer.  The two functions differ in what
they do with an exact half: one goes to the even neighbour, the other upwards.
-/

namespace TailView
namespace Number

/-- The integer nearest to `num / den`; a half goes to the even neighbour. -/
def roundHalfEven (num den : Nat) : Nat :=
  let below := num / den
  let twice := 2 * (num % den)
  if twice < den then below
  else if den < twice then below + 1
  else if below % 2 = 0 then below else below + 1

/-- The integer nearest to `num / den`; a half goes up. -/
def roundHalfUp (num den : Nat) : Nat := (2 * num + den) / (2 * den)

/-- The least integer that is not below `num / den`. -/
def roundUp (num den : Nat) : Nat := (num + den - 1) / den

theorem roundHalfEven_le_succ_div (num den : Nat) : roundHalfEven num den ≤ num / den + 1 := by
  unfold roundHalfEven
  simp only
  split
  · omega
  · split
    · omega
    · split <;> omega

/-- A multiple of the divisor is not changed by rounding. -/
theorem roundHalfEven_of_dvd {num den : Nat} (pos : 0 < den) (h : den ∣ num) :
    roundHalfEven num den = num / den := by
  have : num % den = 0 := Nat.mod_eq_zero_of_dvd h
  simp [roundHalfEven, this, pos]

end Number
end TailView
