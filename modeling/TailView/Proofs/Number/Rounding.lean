import Mathlib.Tactic.Ring
import TailView.Number.Binary64

/-!
# Rounding sees the quotient alone

The representable count of units nearest to a quotient depends on its value and not on how it is
written.  A quotient is rounded to something if it is above one half, and to a number if it is below
the middle between the last number and the limit.
-/

namespace TailView
namespace Number

/-- One and the limit are powers of two. -/
theorem exists_places :
    ∃ places, places = 1074 ∧ unitsPerOne = 2 ^ places ∧ unitsLimit = 2 ^ (places + 1024) :=
  ⟨1074, rfl, by decide +kernel, by decide +kernel⟩

theorem unitsPerOne_pos : 0 < unitsPerOne := by
  obtain ⟨places, -, perOne, -⟩ := exists_places
  rw [perOne]
  exact Nat.two_pow_pos places

theorem unitsLimit_pos : 0 < unitsLimit := by
  obtain ⟨places, -, -, limit⟩ := exists_places
  rw [limit]
  exact Nat.two_pow_pos (places + 1024)

theorem roundHalfEven_mul_right (num den : Nat) {factor : Nat} (positive : 0 < factor) :
    roundHalfEven (num * factor) (den * factor) = roundHalfEven num den := by
  have twice : 2 * (num % den * factor) = 2 * (num % den) * factor := (Nat.mul_assoc ..).symm
  simp only [roundHalfEven, Nat.mul_div_mul_right _ _ positive, Nat.mul_mod_mul_right, twice,
    Nat.mul_lt_mul_right positive]

theorem nearestUnits_mul_right (num den : Nat) {factor : Nat} (positive : 0 < factor) :
    nearestUnits (num * factor) (den * factor) = nearestUnits num den := by
  simp only [nearestUnits, Nat.mul_div_mul_right _ _ positive, Nat.mul_right_comm den factor,
    roundHalfEven_mul_right _ _ positive]

/-- Equal quotients have the same representable count nearest to them. -/
theorem nearestUnits_congr
    {num den otherNum otherDen : Nat}
    (positive : 0 < den)
    (otherPositive : 0 < otherDen)
    (same : num * otherDen = otherNum * den) :
    nearestUnits num den = nearestUnits otherNum otherDen := by
  rw [← nearestUnits_mul_right num den otherPositive, same, Nat.mul_comm den otherDen,
    nearestUnits_mul_right otherNum otherDen positive]

/-- The greatest power of two in a quotient stays below when the quotient is rounded. -/
theorem two_pow_log2_le_nearestUnits
    {num den : Nat}
    (notSmall : num / den ≠ 0) :
    2 ^ (num / den).log2 ≤ nearestUnits num den := by
  have least : ∀ den, num / den ≤ roundHalfEven num den := by
    intro den
    simp only [roundHalfEven]
    split_ifs <;> omega
  simp only [nearestUnits, Nat.pow_eq]
  generalize atMost : (num / den).log2 - 52 = shift
  have split : (num / den).log2 = ((num / den).log2 - shift) + shift := by omega
  have power : 2 ^ (num / den).log2 ≤ num / den := Nat.log2_self_le notSmall
  rw [split, Nat.pow_add]
  refine Nat.mul_le_mul_right _ (Nat.le_trans ?_ (least _))
  rw [← Nat.div_div_eq_div_mul, Nat.le_div_iff_mul_le (Nat.two_pow_pos shift), ← Nat.pow_add,
    ← split]
  exact power

/-- A quotient is rounded to something if it is above one half. -/
theorem nearestUnits_pos_iff {num den : Nat} : 0 < nearestUnits num den ↔ den < 2 * num := by
  have split := Nat.div_add_mod num den
  by_cases below : num / den = 0
  · rw [below, Nat.mul_zero, Nat.zero_add] at split
    simp only [nearestUnits, below, Nat.log2_zero, Nat.zero_sub, Nat.pow_eq, Nat.pow_zero,
      Nat.mul_one, roundHalfEven, split]
    split_ifs <;> omega
  · have power := two_pow_log2_le_nearestUnits below
    have something := Nat.two_pow_pos (num / den).log2
    have whole : den ≤ den * (num / den) := Nat.le_mul_of_pos_right den (Nat.pos_of_ne_zero below)
    have notZero : num ≠ 0 := by
      rintro rfl
      exact below (Nat.zero_div den)
    exact iff_of_true (by omega) (by omega)

theorem nearestUnits_zero (den : Nat) : nearestUnits 0 den = 0 := by
  by_contra something
  exact Nat.not_lt_zero _ (nearestUnits_pos_iff.mp (Nat.pos_of_ne_zero something))

/-- A quotient is rounded to less than an even number if it is below the middle before that. -/
theorem roundHalfEven_lt_iff {num den bound : Nat} (positive : 0 < den) (even : bound % 2 = 0) :
    roundHalfEven num den < bound ↔ 2 * num + den < 2 * (den * bound) := by
  have split := Nat.div_add_mod num den
  have less := Nat.mod_lt num positive
  simp only [roundHalfEven]
  generalize num / den = below at *
  generalize num % den = more at *
  subst split
  rcases Nat.lt_trichotomy (below + 1) bound with under | rfl | above
  · have scaled := Nat.mul_le_mul_left den (show below + 2 ≤ bound from under)
    rw [Nat.mul_add] at scaled
    split_ifs <;> omega
  · have scaled : den * (below + 1) = den * below + den := Nat.mul_succ den below
    split_ifs <;> omega
  · have scaled := Nat.mul_le_mul_left den (Nat.le_of_lt_succ above)
    split_ifs <;> omega

/-- The middle before a power of two lies half a step below it. -/
theorem nearestUnits_lt_two_pow_iff
    {num den exponent : Nat}
    (positive : 0 < den)
    (fine : (num / den).log2 - 52 < exponent) :
    nearestUnits num den < 2 ^ exponent ↔
      2 * num + den * 2 ^ ((num / den).log2 - 52) < 2 * (den * 2 ^ exponent) := by
  simp only [nearestUnits, Nat.pow_eq]
  generalize (num / den).log2 - 52 = shift at *
  have step : 0 < den * 2 ^ shift := Nat.mul_pos positive (Nat.two_pow_pos shift)
  have even : 2 ^ (exponent - shift) % 2 = 0 :=
    Nat.mod_eq_zero_of_dvd (dvd_pow_self 2 (Nat.sub_ne_zero_of_lt fine))
  have split : 2 ^ exponent = 2 ^ (exponent - shift) * 2 ^ shift := by
    rw [← Nat.pow_add, Nat.sub_add_cancel (Nat.le_of_lt fine)]
  rw [split, Nat.mul_lt_mul_right (Nat.two_pow_pos shift), roundHalfEven_lt_iff step even,
    Nat.mul_assoc den, Nat.mul_comm (2 ^ shift)]

/-- The numbers go on to the middle between the last of them and the limit. -/
theorem nearestUnits_lt_unitsLimit_iff {num den : Nat} (positive : 0 < den) :
    nearestUnits num den < unitsLimit ↔ num < (2 ^ 54 - 1) * 2 ^ 2044 * den := by
  obtain ⟨shift, isShift, isLimit⟩ :
      ∃ shift, 2 ^ 2044 = 2 ^ shift ∧ unitsLimit = 2 ^ (shift + 54) := by
    obtain ⟨places, count, -, limit⟩ := exists_places
    have exponent : 2044 = places + 970 := by omega
    exact ⟨places + 970, by rw [exponent], limit⟩
  rw [isShift, isLimit, Nat.mul_assoc, Nat.mul_comm (2 ^ shift)]
  have scale : den * 2 ^ (shift + 54) = 2 ^ 54 * (den * 2 ^ shift) := by
    rw [Nat.pow_add, ← Nat.mul_assoc, Nat.mul_comm]
  have something : 0 < den * 2 ^ shift := Nat.mul_pos positive (Nat.two_pow_pos shift)
  by_cases large : 2 ^ (shift + 54) ≤ num / den
  · have notZero : num / den ≠ 0 := by
      have := Nat.two_pow_pos (shift + 54)
      omega
    have power : 2 ^ (shift + 54) ≤ 2 ^ (num / den).log2 :=
      Nat.pow_le_pow_right Nat.two_pos ((Nat.le_log2 notZero).mpr large)
    have rounded := two_pow_log2_le_nearestUnits notZero
    rw [Nat.le_div_iff_mul_le positive, Nat.mul_comm, scale] at large
    exact iff_of_false (by omega) (by omega)
  · have log2Small : ∀ width, num / den < 2 ^ (width + 1) → (num / den).log2 < width + 1 := by
      intro width small
      by_cases zero : num / den = 0
      · rw [zero, Nat.log2_zero]
        exact Nat.succ_pos width
      · exact (Nat.log2_lt zero).mpr small
    have below := log2Small (shift + 53) (Nat.lt_of_not_le large)
    rw [nearestUnits_lt_two_pow_iff positive (by omega), scale]
    by_cases last : 2 ^ (shift + 53) ≤ num / den
    · -- the steps are the largest ones, and the middle lies one of them below the limit
      have notZero : num / den ≠ 0 := by
        have := Nat.two_pow_pos (shift + 53)
        omega
      have atLeast := (Nat.le_log2 notZero).mpr last
      rw [show (num / den).log2 - 52 = shift + 1 by omega, Nat.pow_succ, ← Nat.mul_assoc]
      omega
    · have small := log2Small (shift + 52) (Nat.lt_of_not_le last)
      have step : den * 2 ^ ((num / den).log2 - 52) ≤ den * 2 ^ shift :=
        Nat.mul_le_mul_left den (Nat.pow_le_pow_right Nat.two_pos (by omega))
      rw [Nat.not_le, Nat.div_lt_iff_lt_mul positive, Nat.mul_comm, Nat.pow_add, ← Nat.mul_assoc,
        Nat.mul_comm _ (2 ^ 53)] at last
      exact iff_of_true (by omega) (by omega)

end Number
end TailView
