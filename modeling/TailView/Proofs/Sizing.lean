import TailView.Amount
import TailView.Proofs.Number.Arithmetic

/-!
# How much room an amount asks for

The bytes of an amount are counted in binary numbers and the entries in words of 64 bits, yet both
counts are exact: they are what the same rules give for rational numbers and for integers of any
size.
-/

namespace TailView

open Number

/-- A quotient that is rounded up is at most a number that many times the divisor reaches. -/
theorem roundUp_le_iff {num den bound : Nat} (positive : 0 < den) :
    roundUp num den ≤ bound ↔ num ≤ den * bound := by
  rw [roundUp, Nat.div_le_iff_le_mul_add_pred positive]
  omega

/-- Rounding up adds one to the quotient unless nothing is left over. -/
theorem roundUp_eq {num den : Nat} (positive : 0 < den) :
    roundUp num den = if num % den = 0 then num / den else num / den + 1 := by
  have split := Nat.div_add_mod num den
  have less := Nat.mod_lt num positive
  have regrouped : num + den - 1 = den * (num / den) + (num % den + den - 1) := by omega
  rw [roundUp, regrouped, Nat.mul_add_div positive]
  split_ifs with even
  · rw [even, Nat.zero_add, Nat.div_eq_of_lt (Nat.sub_lt positive Nat.one_pos), Nat.add_zero]
  · have once : (num % den + den - 1) / den = 1 :=
      Nat.div_eq_of_lt_le (by omega) (by omega)
    rw [once]

theorem SizeUnit.exists_bytes_eq (unit : SizeUnit) :
    ∃ exponent < 1024, unit.bytes = 2 ^ exponent := by
  cases unit with
  | kb => exact ⟨10, by decide, rfl⟩
  | mb => exact ⟨20, by decide, rfl⟩

namespace Amount

variable {amount other : Amount} {perLine fine coarse bound : Nat}

theorem bytes_lt_size (amount : Amount) : amount.bytes < UInt64.size := by
  rw [bytes_eq]
  exact UInt64.toNat_lt_size _

/-! ## Entries -/

/-- There is room for as many entries as it takes to hold the amount. -/
theorem capacity_le_iff (positive : 1 ≤ bound) :
    amount.capacity perLine ≤ bound ↔ amount.bytes ≤ bound * max perLine 1 := by
  rw [capacity, max_le_iff, roundUp_le_iff (by omega), Nat.mul_comm]
  exact and_iff_right positive

theorem capacity_pos (amount : Amount) (perLine : Nat) : 0 < amount.capacity perLine :=
  Nat.lt_of_lt_of_le Nat.one_pos (Nat.le_max_left _ _)

/-- More bytes take more entries, and the longer the lines are taken to be, the fewer of them. -/
theorem capacity_le_capacity (more : amount.bytes ≤ other.bytes) (coarser : fine ≤ coarse) :
    amount.capacity coarse ≤ other.capacity fine := by
  rw [capacity_le_iff (capacity_pos other fine)]
  calc amount.bytes
    _ ≤ other.bytes := more
    _ ≤ other.capacity fine * max fine 1 := (capacity_le_iff (capacity_pos other fine)).mp le_rfl
    _ ≤ other.capacity fine * max coarse 1 := Nat.mul_le_mul_left _ (max_le_max coarser le_rfl)

/-- A quotient of words rounded up, by the division of words. -/
def roundUpWord (num den : UInt64) : UInt64 :=
  if num % den = 0 then num / den else num / den + 1

/-- The room for a number of bytes, in words. -/
def capacityWord (bytes perLine : UInt64) : UInt64 :=
  max 1 (roundUpWord bytes (max perLine 1))

/-- A quotient of words is rounded up without running over. -/
theorem toNat_roundUpWord (num : UInt64) {den : UInt64} (positive : 0 < den.toNat) :
    (roundUpWord num den).toNat = roundUp num.toNat den.toNat := by
  have isZero : num % den = 0 ↔ num.toNat % den.toNat = 0 := by
    rw [← UInt64.toNat_inj, UInt64.toNat_mod]
    rfl
  have less := num.toNat_lt
  rw [roundUpWord, roundUp_eq positive]
  split
  · next even =>
      rw [if_pos (isZero.mp even), UInt64.toNat_div]
  · next uneven =>
      rw [isZero] at uneven
      rw [if_neg uneven, UInt64.toNat_add, UInt64.toNat_div, UInt64.toNat_one]
      refine Nat.mod_eq_of_lt ?_
      -- a divisor that leaves a rest is not one
      have divides : den.toNat ≠ 1 := by
        intro one
        rw [one, Nat.mod_one] at uneven
        exact uneven rfl
      have something : 0 < num.toNat := by
        refine Nat.pos_of_ne_zero fun nothing => uneven ?_
        rw [nothing, Nat.zero_mod]
      have smaller := Nat.div_lt_self something (show 1 < den.toNat by omega)
      omega

theorem toNat_capacityWord (amount : Amount) (perLine : UInt64) :
    (capacityWord (.ofNat amount.bytes) perLine).toNat = amount.capacity perLine.toNat := by
  have divisor : (max perLine 1).toNat = max perLine.toNat 1 := UInt64.toNat_max _ _
  have fits := amount.bytes_lt_size
  rw [capacityWord, UInt64.toNat_max, toNat_roundUpWord _ (by omega), divisor,
    UInt64.toNat_ofNat_of_lt' fits, capacity]
  rfl

/-! ## Bytes -/

/-- A number of units of an amount, once it is rounded and made a word. -/
theorem toNat_round_mul (magnitude : Magnitude) (unit : SizeUnit) :
    ((Binary64.finite false magnitude).mul (.ofInt unit.bytes)).round.toUInt64.toNat =
      min (UInt64.size - 1) (roundHalfUp (magnitude.units * unit.bytes) unitsPerOne) := by
  obtain ⟨exponent, inRange, isPower⟩ := unit.exists_bytes_eq
  rw [isPower]
  obtain ⟨exactly, tooLarge⟩ := Binary64.mul_two_pow false magnitude inRange
  by_cases bounded : magnitude.units * 2 ^ exponent < unitsLimit
  · obtain ⟨product, units, isProduct⟩ := exactly bounded
    obtain ⟨rounded, roundedUnits, isRounded⟩ := Binary64.exists_round false product
    have few : min (UInt64.size - 1) (roundHalfUp product.units unitsPerOne) < UInt64.size :=
      Nat.lt_of_le_of_lt (Nat.min_le_left _ _) (by decide)
    rw [isProduct, isRounded, ← units, Binary64.toUInt64, if_neg Bool.false_ne_true, roundedUnits,
      Nat.mul_div_cancel _ unitsPerOne_pos, UInt64.toNat_ofNat_of_lt' few]
  · have large := Nat.le_of_not_lt bounded
    have huge : 2 ^ 64 * unitsPerOne ≤ unitsLimit := by
      obtain ⟨places, -, perOne, limit⟩ := exists_places
      rw [perOne, limit, ← Nat.pow_add]
      exact Nat.pow_le_pow_right Nat.two_pos (by omega)
    have most := roundHalfUp_le_roundHalfUp unitsPerOne (huge.trans large)
    rw [roundHalfUp_mul_right _ unitsPerOne_pos] at most
    have cut : min (UInt64.size - 1) (roundHalfUp (magnitude.units * 2 ^ exponent) unitsPerOne) =
        UInt64.size - 1 := Nat.min_eq_left ((Nat.sub_le UInt64.size 1).trans most)
    rw [tooLarge large, cut]
    rfl

/-- The bytes of an amount that is not negative. -/
theorem bytes_of_nonnegative
    {magnitude : Magnitude}
    (nonnegative : amount.value = .finite false magnitude) :
    amount.bytes =
      min (UInt64.size - 1) (roundHalfUp (magnitude.units * amount.unit.bytes) unitsPerOne) := by
  rw [bytes_eq, nonnegative, Binary64.greater_zero_of_nonnegative, toNat_round_mul]

/-- An amount that is not above zero has no bytes. -/
theorem bytes_eq_zero (notAbove : Binary64.below .zero amount.value = false) : amount.bytes = 0 := by
  obtain ⟨nothing, units, isZero⟩ := Binary64.exists_zero
  have none := roundHalfUp_mul_right 0 unitsPerOne_pos
  rw [Nat.zero_mul] at none
  rw [bytes_eq, Binary64.greater_zero, if_neg (by simp [notAbove]), isZero, toNat_round_mul, units,
    Nat.zero_mul, none, Nat.min_zero]

theorem bytes_of_infinity (infinite : amount.value = .infinity false) :
    amount.bytes = UInt64.size - 1 := by
  obtain ⟨exponent, inRange, isPower⟩ := amount.unit.exists_bytes_eq
  obtain ⟨power, units, same⟩ := Binary64.exists_ofInt_two_pow inRange
  have something : power.units ≠ 0 := by
    rw [units]
    exact Nat.mul_ne_zero (Nat.two_pow_pos exponent).ne' unitsPerOne_pos.ne'
  have above : Binary64.below .zero (.infinity false) = true := Binary64.below_zero_infinity false
  rw [bytes_eq, infinite, Binary64.greater_zero, if_pos above, isPower, same, Binary64.mul,
    if_neg something]
  rfl

/-- The bytes of a finite amount in exact arithmetic. -/
theorem natCast_bytes {x : ℚ} (isNumber : amount.value.toRat? = some x) :
    (amount.bytes : ℤ) = min (2 ^ 64 - 1) (roundAway (max x 0 * amount.unit.bytes)) := by
  cases value : amount.value with
  | nan =>
      rw [value] at isNumber
      cases isNumber
  | infinity negative =>
      rw [value] at isNumber
      cases isNumber
  | finite negative magnitude =>
      rw [value] at isNumber
      cases isNumber
      cases negative with
      | false =>
          have units : (Binary64.signedUnits false magnitude : ℚ) = magnitude.units :=
            Int.cast_natCast _
          have nonnegative : 0 ≤ (magnitude.units : ℚ) / unitsPerOne :=
            div_nonneg (Nat.cast_nonneg _) (Nat.cast_nonneg _)
          have product : (magnitude.units : ℚ) / unitsPerOne * amount.unit.bytes =
              ((magnitude.units * amount.unit.bytes : Nat) : ℚ) / unitsPerOne := by
            push_cast
            ring
          rw [units, max_eq_left nonnegative, product,
            roundAway_natCast_div _ _ unitsPerOne_pos, bytes_of_nonnegative value, Nat.cast_min]
          rfl
      | true =>
          have units : (Binary64.signedUnits true magnitude : ℚ) = -(magnitude.units : ℚ) := by
            rw [Binary64.signedUnits, if_pos rfl, Int.cast_neg, Int.cast_natCast]
          have notAbove : -(magnitude.units : ℚ) / unitsPerOne ≤ 0 :=
            div_nonpos_of_nonpos_of_nonneg (neg_nonpos.mpr (Nat.cast_nonneg _)) (Nat.cast_nonneg _)
          have none : amount.bytes = 0 := by
            refine bytes_eq_zero ?_
            rw [value, Binary64.below_zero_finite, Bool.not_true, Bool.false_and]
          rw [none, units, max_eq_right notAbove, zero_mul]
          norm_num [roundAway]

/-- More of the same unit is at least as many bytes. -/
theorem bytes_le_bytes
    {x y : ℚ}
    (sameUnit : other.unit = amount.unit)
    (isNumber : amount.value.toRat? = some x)
    (isOther : other.value.toRat? = some y)
    (le : x ≤ y) :
    amount.bytes ≤ other.bytes := by
  have scaled : max x 0 * (amount.unit.bytes : ℚ) ≤ max y 0 * amount.unit.bytes :=
    mul_le_mul_of_nonneg_right (max_le_max le le_rfl) (by positivity)
  have rounded := roundAway_le_roundAway (by positivity) scaled
  have ordered : (amount.bytes : ℤ) ≤ other.bytes := by
    rw [natCast_bytes isNumber, natCast_bytes isOther, sameUnit]
    exact min_le_min le_rfl rounded
  exact_mod_cast ordered

/-- The sizes of an amount are exact at every limit.  There is room for the least number of entries,
at least one, that hold all its bytes at so many bytes to the line, or at one byte if none is given;
so more bytes take no less room and longer lines no more, and counting in words of 64 bits never
runs over.  The bytes of a finite amount are the product of its value and its unit, rounded in exact
arithmetic with a half going away from zero, and cut off at the largest word; a negative amount and
one that is no number have none, and an infinite one has as many as a word can count.  So a greater
value never has fewer bytes. -/
theorem sizes_exact (amount : Amount) :
    (∀ perLine, IsLeast {count | 1 ≤ count ∧ amount.bytes ≤ count * max perLine 1}
        (amount.capacity perLine)) ∧
      (∀ other : Amount, ∀ fine coarse, amount.bytes ≤ other.bytes → fine ≤ coarse →
        amount.capacity coarse ≤ other.capacity fine) ∧
      (amount.bytes < 2 ^ 64 ∧ ∀ perLine : UInt64,
        (capacityWord (.ofNat amount.bytes) perLine).toNat = amount.capacity perLine.toNat) ∧
      (∀ x, amount.value.toRat? = some x →
        (amount.bytes : ℤ) = min (2 ^ 64 - 1) (roundAway (max x 0 * amount.unit.bytes))) ∧
      (amount.value = .nan → amount.bytes = 0) ∧
      (amount.value = .infinity true → amount.bytes = 0) ∧
      (amount.value = .infinity false → amount.bytes = 2 ^ 64 - 1) ∧
      ∀ other : Amount, other.unit = amount.unit → ∀ x y, amount.value.toRat? = some x →
        other.value.toRat? = some y → x ≤ y → amount.bytes ≤ other.bytes := by
  refine ⟨?_, ?_, ?_, ?_, ?_, ?_, ?_, ?_⟩
  · intro perLine
    have positive := amount.capacity_pos perLine
    refine ⟨⟨positive, (capacity_le_iff positive).mp le_rfl⟩, ?_⟩
    rintro count ⟨something, enough⟩
    exact (capacity_le_iff something).mpr enough
  · intro other fine coarse more coarser
    exact capacity_le_capacity more coarser
  · exact ⟨amount.bytes_lt_size, amount.toNat_capacityWord⟩
  · intro x isNumber
    exact natCast_bytes isNumber
  · intro isNan
    exact bytes_eq_zero (by rw [isNan, Binary64.below_zero_nan])
  · intro isNegative
    exact bytes_eq_zero (by rw [isNegative, Binary64.below_zero_infinity, Bool.not_true])
  · intro isPositive
    exact bytes_of_infinity isPositive
  · intro other sameUnit x y isNumber isOther le
    exact bytes_le_bytes sameUnit isNumber isOther le

/-- Half a byte counts as one, and of the most bytes there are each has an entry if lines are not
estimated. -/
example :
    (Amount.mk (.ofRatio false 1 2048) .kb).bytes = 1 ∧
      (Amount.mk (.infinity false) .mb).capacity 0 = 2 ^ 64 - 1 := by decide +kernel

end Amount
end TailView
