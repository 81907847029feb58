import TailView.Number.Rounding

/-!
# Binary floating-point numbers of 64 bits

A finite number is a sign and a whole number of units of 2^-1074, the distance between the
smallest ones.  A count of units is representable when its binary digits, from the first one that
is not zero to the last, are at most 53; rounding takes every quotient to the nearest
representable count, and leaves representable counts alone.
-/

namespace TailView
namespace Number

/-- How many units make one. -/
def unitsPerOne : Nat := Nat.pow 2 1074

/-- The first count of units that is too large: the number 2^1024. -/
def unitsLimit : Nat := Nat.pow 2 2098

/-- The representable count nearest to `num / den` units, a tie going to the even one; there is no
upper limit yet. -/
def nearestUnits (num den : Nat) : Nat :=
  let shift := (num / den).log2 - 52
  roundHalfEven num (den * Nat.pow 2 shift) * Nat.pow 2 shift

/-- A count that needs at most 53 binary digits before its trailing zeros. -/
def IsShort (units : Nat) : Prop :=
  ∃ significand shift, significand ≤ Nat.pow 2 53 ∧ units = significand * Nat.pow 2 shift

theorem isShort_nearestUnits (num den : Nat) : IsShort (nearestUnits num den) := by
  refine ⟨_, _, ?_, rfl⟩
  generalize hs : (num / den).log2 - 52 = shift
  rw [Nat.pow_eq, Nat.pow_eq]
  have hlt : num / den < 2 ^ (shift + 53) := by
    by_cases hz : num / den = 0
    · rw [hz]; exact Nat.two_pow_pos _
    · exact (Nat.log2_lt hz).1 (by omega)
  have hq : num / (den * 2 ^ shift) < 2 ^ 53 := by
    rw [← Nat.div_div_eq_div_mul, Nat.div_lt_iff_lt_mul (Nat.two_pow_pos _), ← Nat.pow_add,
      Nat.add_comm]
    exact hlt
  exact Nat.le_trans (roundHalfEven_le_succ_div _ _) hq

theorem nearestUnits_of_isShort {units : Nat} (h : IsShort units) : nearestUnits units 1 = units := by
  obtain ⟨significand, shift, hle, rfl⟩ := h
  simp only [nearestUnits, Nat.div_one, Nat.one_mul, Nat.pow_eq] at hle ⊢
  generalize hs : (significand * 2 ^ shift).log2 - 52 = drop
  have hdvd : 2 ^ drop ∣ significand * 2 ^ shift := by
    by_cases hz : significand = 0
    · simp [hz]
    have hne : significand * 2 ^ shift ≠ 0 := Nat.mul_ne_zero hz (Nat.ne_of_gt (Nat.two_pow_pos _))
    rcases Nat.lt_or_eq_of_le hle with hlt | heq
    · have : (significand * 2 ^ shift).log2 < shift + 53 := by
        rw [Nat.log2_lt hne, Nat.add_comm, Nat.pow_add]
        exact Nat.mul_lt_mul_of_pos_right hlt (Nat.two_pow_pos _)
      exact Nat.dvd_trans (Nat.pow_dvd_pow 2 (by omega)) (Nat.dvd_mul_left _ _)
    · subst heq
      rw [← Nat.pow_add] at hs ⊢
      rw [Nat.log2_two_pow] at hs
      exact Nat.pow_dvd_pow 2 (by omega)
  rw [roundHalfEven_of_dvd (Nat.two_pow_pos _) hdvd, Nat.div_mul_cancel hdvd]

/-- A count of units that a finite number can have: rounding does not move it and it is below the
limit. -/
structure Magnitude where
  /-- The count of units of 2^-1074. -/
  units : Nat
  /-- Rounding leaves the count alone. -/
  exact : nearestUnits units 1 = units
  /-- The count is below that of 2^1024. -/
  bounded : units < unitsLimit
deriving DecidableEq

/-- A binary floating-point number of 64 bits; all patterns that are no number are one value. -/
inductive Binary64
  | nan
  | infinity (negative : Bool)
  | finite (negative : Bool) (magnitude : Magnitude)
deriving DecidableEq

namespace Binary64

/-- The number with the given sign nearest to `num / den` units, infinite beyond the range. -/
def ofUnits (negative : Bool) (num den : Nat) : Binary64 :=
  if bounded : nearestUnits num den < unitsLimit then
    .finite negative
      ⟨nearestUnits num den, nearestUnits_of_isShort (isShort_nearestUnits num den), bounded⟩
  else .infinity negative

/-- The number with the given sign nearest to the quotient `num / den`. -/
def ofRatio (negative : Bool) (num den : Nat) : Binary64 := ofUnits negative (num * unitsPerOne) den

/-- The number nearest to an integer. -/
def ofInt (n : Int) : Binary64 := ofRatio (decide (n < 0)) n.natAbs 1

/-- The sum of two numbers that are not negative. -/
def addUnsigned : Binary64 → Binary64 → Binary64
  | .finite _ a, .finite _ b => ofUnits false (a.units + b.units) 1
  | .infinity _, .finite _ _ => .infinity false
  | .finite _ _, .infinity _ => .infinity false
  | .infinity _, .infinity _ => .infinity false
  | .nan, _ => .nan
  | _, .nan => .nan

/-- The number one. -/
def one : Binary64 := ofRatio false 1 1

/-- Neither infinite nor `nan`, and greater than zero. -/
def isPositiveFinite : Binary64 → Bool
  | .finite negative magnitude => !negative && magnitude.units != 0
  | _ => false

/-- A finite number is unchanged when it is built again from its units. -/
theorem ofUnits_units (negative : Bool) (magnitude : Magnitude) :
    ofUnits negative magnitude.units 1 = .finite negative magnitude := by
  obtain ⟨units, exact, bounded⟩ := magnitude
  simp [ofUnits, exact, bounded]

end Binary64
end Number
end TailView
