import Mathlib.Data.Rat.Floor
import TailView.Number.Arithmetic
import TailView.Proofs.Number.Rounding

/-!
# Arithmetic that loses nothing

A number times a power of two is the exact product, unless that is out of range.  The integer
nearest to a number is a number again: a number is either so small that there is one for each
integer around it, or an integer itself.
-/

namespace TailView
namespace Number

/-! ## Rounding to integers -/

theorem roundHalfUp_mul_right (n : Nat) {den : Nat} (positive : 0 < den) :
    roundHalfUp (n * den) den = n := by
  have split : 2 * (n * den) + den = den + 2 * den * n := by ring
  rw [roundHalfUp, split, Nat.add_mul_div_left _ _ (by omega), Nat.div_eq_of_lt (by omega),
    Nat.zero_add]

theorem roundHalfUp_le_succ_div (num : Nat) {den : Nat} (positive : 0 < den) :
    roundHalfUp num den ≤ num / den + 1 := by
  have split := Nat.div_add_mod num den
  have less := Nat.mod_lt num positive
  rw [roundHalfUp, Nat.div_le_iff_le_mul_add_pred (by omega)]
  generalize num / den = below at *
  have scaled : 2 * den * (below + 1) = 2 * (den * below) + 2 * den := by ring
  omega

theorem roundHalfUp_le_roundHalfUp {num more : Nat} (den : Nat) (le : num ≤ more) :
    roundHalfUp num den ≤ roundHalfUp more den :=
  Nat.div_le_div_right (Nat.add_le_add_right (Nat.mul_le_mul_left 2 le) den)

/-- The integer nearest to a number, a half going away from zero. -/
def roundAway (x : ℚ) : ℤ := if 0 ≤ x then ⌊x + 1 / 2⌋ else ⌈x - 1 / 2⌉

theorem roundAway_natCast_div (num den : Nat) (positive : 0 < den) :
    roundAway ((num : ℚ) / den) = roundHalfUp num den := by
  have halves : (num : ℚ) / den + 1 / 2 = ((2 * num + den : Nat) : ℚ) / ((2 * den : Nat) : ℚ) := by
    have notZero : (den : ℚ) ≠ 0 := by exact_mod_cast positive.ne'
    push_cast
    field_simp
  rw [roundAway, if_pos (by positivity), halves, Rat.floor_natCast_div_natCast, roundHalfUp,
    Int.natCast_ediv]

theorem roundAway_le_roundAway {x y : ℚ} (nonnegative : 0 ≤ x) (le : x ≤ y) :
    roundAway x ≤ roundAway y := by
  rw [roundAway, roundAway, if_pos nonnegative, if_pos (nonnegative.trans le)]
  exact Int.floor_mono (add_le_add_left le _)

/-! ## Short counts -/

theorem Magnitude.isShort (magnitude : Magnitude) : IsShort magnitude.units := by
  have short := isShort_nearestUnits magnitude.units 1
  rwa [magnitude.exact] at short

theorem IsShort.mul_two_pow {units : Nat} (short : IsShort units) (exponent : Nat) :
    IsShort (units * 2 ^ exponent) := by
  obtain ⟨significand, shift, small, rfl⟩ := short
  refine ⟨significand, shift + exponent, small, ?_⟩
  rw [Nat.pow_eq, Nat.pow_eq, Nat.pow_add, Nat.mul_assoc]

/-- A count that is rounded to whole numbers stays short, and below the limit.  If its last digit is
worth one or more, it is a whole number already; otherwise it is below 2^53. -/
theorem IsShort.roundHalfUp {units : Nat} (short : IsShort units) :
    IsShort (roundHalfUp units unitsPerOne * unitsPerOne) ∧
      (units < unitsLimit → roundHalfUp units unitsPerOne * unitsPerOne < unitsLimit) := by
  obtain ⟨significand, shift, small, rfl⟩ := short
  obtain ⟨places, -, perOne, limit⟩ := exists_places
  rw [Nat.pow_eq] at small ⊢
  by_cases whole : places ≤ shift
  · have multiple : significand * 2 ^ shift = significand * 2 ^ (shift - places) * unitsPerOne := by
      rw [perOne, Nat.mul_assoc, ← Nat.pow_add, Nat.sub_add_cancel whole]
    rw [multiple, roundHalfUp_mul_right _ unitsPerOne_pos, ← multiple]
    exact ⟨⟨significand, shift, small, rfl⟩, id⟩
  · have below : significand * 2 ^ shift ≤ unitsPerOne * 2 ^ 52 := by
      calc significand * 2 ^ shift
        _ ≤ 2 ^ 53 * 2 ^ shift := Nat.mul_le_mul_right _ small
        _ = 2 ^ (shift + 1) * 2 ^ 52 := by ring
        _ ≤ unitsPerOne * 2 ^ 52 := by
          rw [perOne]
          exact Nat.mul_le_mul_right _ (Nat.pow_le_pow_right Nat.two_pos (by omega))
    have part : significand * 2 ^ shift / unitsPerOne ≤ 2 ^ 52 := Nat.div_le_of_le_mul below
    have rounded := roundHalfUp_le_succ_div (significand * 2 ^ shift) unitsPerOne_pos
    generalize Number.roundHalfUp (significand * 2 ^ shift) unitsPerOne = integer at *
    have few : integer ≤ 2 ^ 53 := by omega
    refine ⟨⟨integer, places, few, by rw [perOne, Nat.pow_eq]⟩, fun _ => ?_⟩
    calc integer * unitsPerOne
      _ ≤ 2 ^ 53 * unitsPerOne := Nat.mul_le_mul_right _ few
      _ = 2 ^ (places + 53) := by rw [perOne, Nat.pow_add, Nat.mul_comm]
      _ < unitsLimit := by
        rw [limit]
        exact Nat.pow_lt_pow_right Nat.one_lt_two (by omega)

namespace Binary64

variable {units exponent : Nat}

/-- A short count of units is the number with that count, if it is in range. -/
theorem ofUnits_of_isShort
    (negative : Bool)
    {den : Nat}
    (positive : 0 < den)
    (short : IsShort units) :
    (units < unitsLimit → ∃ magnitude : Magnitude, magnitude.units = units ∧
      ofUnits negative (units * den) den = .finite negative magnitude) ∧
      (unitsLimit ≤ units → ofUnits negative (units * den) den = .infinity negative) := by
  have kept : nearestUnits (units * den) den = units := by
    have scaled := nearestUnits_mul_right units 1 positive
    rw [Nat.one_mul] at scaled
    rw [scaled, nearestUnits_of_isShort short]
  constructor
  · intro bounded
    refine ⟨_, kept, dif_pos ?_⟩
    rwa [kept]
  · intro large
    refine dif_neg ?_
    rw [kept]
    exact Nat.not_lt.mpr large

/-- A power of two in the range of the numbers is one of them. -/
theorem exists_ofInt_two_pow (inRange : exponent < 1024) :
    ∃ power : Magnitude, power.units = 2 ^ exponent * unitsPerOne ∧
      ofInt ((2 ^ exponent : Nat) : Int) = .finite false power := by
  obtain ⟨places, -, perOne, limit⟩ := exists_places
  have short : IsShort (2 ^ exponent * unitsPerOne) := by
    refine ⟨1, exponent + places, Nat.pos_of_ne_zero (by decide), ?_⟩
    rw [perOne, Nat.pow_eq, Nat.one_mul, Nat.pow_add]
  have bounded : 2 ^ exponent * unitsPerOne < unitsLimit := by
    rw [perOne, limit, ← Nat.pow_add]
    exact Nat.pow_lt_pow_right Nat.one_lt_two (by omega)
  obtain ⟨power, units, same⟩ := (ofUnits_of_isShort false Nat.one_pos short).1 bounded
  refine ⟨power, units, ?_⟩
  have positive : decide (((2 ^ exponent : Nat) : Int) < 0) = false := by simp
  rw [← same, Nat.mul_one, ofInt, ofRatio, positive, Int.natAbs_natCast]

/-- A number times a power of two is the exact product, unless that is out of range. -/
theorem mul_two_pow (negative : Bool) (magnitude : Magnitude) (inRange : exponent < 1024) :
    (magnitude.units * 2 ^ exponent < unitsLimit →
      ∃ product : Magnitude, product.units = magnitude.units * 2 ^ exponent ∧
        mul (.finite negative magnitude) (ofInt ((2 ^ exponent : Nat) : Int)) =
          .finite negative product) ∧
      (unitsLimit ≤ magnitude.units * 2 ^ exponent →
        mul (.finite negative magnitude) (ofInt ((2 ^ exponent : Nat) : Int)) =
          .infinity negative) := by
  obtain ⟨power, units, isPower⟩ := exists_ofInt_two_pow inRange
  have exact_product : mul (.finite negative magnitude) (ofInt ((2 ^ exponent : Nat) : Int)) =
      ofUnits negative (magnitude.units * 2 ^ exponent * unitsPerOne) unitsPerOne := by
    rw [isPower, mul, units, Bool.xor_false, Nat.mul_assoc]
  rw [exact_product]
  exact ofUnits_of_isShort negative unitsPerOne_pos (magnitude.isShort.mul_two_pow exponent)

/-- The integer nearest to a number is a number. -/
theorem exists_round (negative : Bool) (magnitude : Magnitude) :
    ∃ rounded : Magnitude, rounded.units = roundHalfUp magnitude.units unitsPerOne * unitsPerOne ∧
      round (.finite negative magnitude) = .finite negative rounded := by
  obtain ⟨short, bounded⟩ := magnitude.isShort.roundHalfUp
  obtain ⟨rounded, units, same⟩ :=
    (ofUnits_of_isShort negative Nat.one_pos short).1 (bounded magnitude.bounded)
  refine ⟨rounded, units, ?_⟩
  rw [← same, Nat.mul_one, round, ofRatio]

/-! ## Comparison with zero -/

theorem exists_zero : ∃ nothing : Magnitude, nothing.units = 0 ∧ zero = .finite false nothing := by
  have short : IsShort 0 := ⟨0, 0, Nat.zero_le _, rfl⟩
  obtain ⟨nothing, units, same⟩ := (ofUnits_of_isShort false Nat.one_pos short).1 unitsLimit_pos
  refine ⟨nothing, units, ?_⟩
  rw [← same, zero, ofInt, ofRatio, Int.natAbs_zero, Nat.zero_mul, Nat.zero_mul]
  rfl

theorem below_zero_nan : below zero .nan = false := by
  obtain ⟨nothing, -, isZero⟩ := exists_zero
  rw [isZero]
  rfl

theorem below_zero_infinity (negative : Bool) : below zero (.infinity negative) = !negative := by
  obtain ⟨nothing, -, isZero⟩ := exists_zero
  rw [isZero]
  rfl

theorem below_zero_finite (negative : Bool) (magnitude : Magnitude) :
    below zero (.finite negative magnitude) = (!negative && decide (0 < magnitude.units)) := by
  obtain ⟨nothing, noUnits, isZero⟩ := exists_zero
  rw [isZero, below]
  cases negative <;> simp [signedUnits, noUnits]

theorem greater_zero (x : Binary64) : greater x zero = if below zero x = true then x else zero := by
  obtain ⟨nothing, -, isZero⟩ := exists_zero
  have isNumber : zero ≠ .nan := by
    rw [isZero]
    nofun
  simp only [greater, isNumber, false_or]

/-- A finite number that is not negative is the greater one of itself and zero. -/
theorem greater_zero_of_nonnegative (magnitude : Magnitude) :
    greater (.finite false magnitude) zero = .finite false magnitude := by
  rw [greater_zero, below_zero_finite]
  split
  · rfl
  · next notAbove =>
      -- both are zero, and a count of units is kept in one way only
      obtain ⟨⟨_, _, _⟩, noUnits, isZero⟩ := exists_zero
      obtain ⟨units, _, _⟩ := magnitude
      have none : units = 0 := by simpa using notAbove
      rw [isZero]
      cases none
      cases noUnits
      rfl

/-- The rational number that a finite number is. -/
def toRat? : Binary64 → Option ℚ
  | .finite negative magnitude => some ((signedUnits negative magnitude : ℚ) / unitsPerOne)
  | _ => none

end Binary64
end Number
end TailView
