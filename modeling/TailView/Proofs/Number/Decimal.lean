import Mathlib.Data.List.DropRight
import TailView.Number.Integer
import TailView.Proofs.Number.Numeral

/-!
# Decimal text and the numbers it stands for

The text of a finite number is a numeral, and the numeral denotes the same number: the digits were
chosen so that rounding takes them there, and reading rounds the same quotient.  A text of an
integer is read as a number of the same value.
-/

namespace TailView
namespace Number

/-- What is dropped from the end are zeros. -/
theorem exists_dropTrailingZeros (digits : List Char) :
    ∃ dropped, digits = dropTrailingZeros digits ++ List.replicate dropped '0' := by
  have trimmed : dropTrailingZeros digits = digits.rdropWhile (· = '0') := rfl
  refine ⟨(digits.rtakeWhile (· = '0')).length, ?_⟩
  have zeros : ∀ c ∈ digits.rtakeWhile (· = '0'), c = '0' := by
    intro c member
    have isZero := List.mem_rtakeWhile_imp member
    exact of_decide_eq_true isZero
  rw [trimmed, ← List.eq_replicate_of_mem zeros]
  exact (List.rdropWhile_append_rtakeWhile ..).symm

namespace Binary64

/-! ## Integers -/

/-- Zero, with any sign. -/
def isZero : Binary64 → Bool
  | .finite _ magnitude => magnitude.units = 0
  | _ => false

/-- The same number; the sign of zero does not count. -/
def SameValue (x y : Binary64) : Prop := x = y ∨ x.isZero = true ∧ y.isZero = true

/-- A quotient of nothing is zero. -/
theorem isZero_ofRatio_zero (negative : Bool) (den : Nat) :
    (ofRatio negative 0 den).isZero = true := by
  have nothing : nearestUnits (0 * unitsPerOne) den = 0 := by
    rw [Nat.zero_mul]
    exact nearestUnits_zero den
  have bounded : nearestUnits (0 * unitsPerOne) den < unitsLimit := by
    rw [nothing]
    exact unitsLimit_pos
  rw [ofRatio, ofUnits, dif_pos bounded, isZero]
  exact decide_eq_true nothing

/-- Digits behind a sign are read as the integer that they denote. -/
theorem exists_read_of_readDigits
    {sign digits : List Char}
    {negative : Bool}
    {n : Nat}
    (isSign : IsSign sign negative)
    (isNumber : readDigits digits = some n) :
    ∃ x, read (sign ++ digits) = some x ∧
      x.SameValue (ofInt (if negative then -(n : Int) else n)) := by
  rw [readDigits, Option.ite_none_right_eq_some, Bool.and_eq_true, List.all_eq_true,
    Option.some.injEq] at isNumber
  obtain ⟨⟨someDigit, allDigits⟩, rfl⟩ := isNumber
  have numeral : IsNumeral (sign ++ digits) negative digits [] := by
    refine ⟨allDigits, List.forall_mem_nil _, ?_, sign, [], ?_, isSign, .inr ⟨rfl, rfl⟩⟩
    · rw [List.append_nil]
      rintro rfl
      cases someDigit
    · rw [List.append_nil, List.append_nil]
  refine ⟨_, numeral.read_eq, ?_⟩
  have magnitude : (if negative then -(natOfDigits digits : Int) else natOfDigits digits).natAbs =
      natOfDigits digits := by
    cases negative <;> simp
  rw [ofNumeral, List.append_nil, List.length_nil, Nat.pow_zero, ofInt, magnitude]
  by_cases zero : natOfDigits digits = 0
  · rw [zero]
    exact .inr ⟨isZero_ofRatio_zero _ _, isZero_ofRatio_zero _ _⟩
  · have sign :
        decide ((if negative then -(natOfDigits digits : Int) else natOfDigits digits) < 0) =
          negative := by
      cases negative <;> simp
      omega
    rw [sign]
    exact .inl rfl

/-- A text of an integer is also read as a number, with the same value. -/
theorem exists_parse?_of_parseInt64?
    {raw : String}
    {n : Int}
    (isInteger : parseInt64? raw = some n) :
    ∃ x, parse? raw = some x ∧ x.SameValue (ofInt n) := by
  have same : ∀ value : Int, (if Int64.minValue.toInt ≤ value ∧ value ≤ Int64.maxValue.toInt
      then pure value else none) = some n → value = n := by
    intro value fits
    rw [Option.pure_def, Option.ite_none_right_eq_some, Option.some.injEq] at fits
    exact fits.2
  rw [parse?]
  rw [parseInt64?] at isInteger
  split at isInteger
  next digits minus =>
    obtain ⟨value, written, fits⟩ := Option.bind_eq_some_iff.mp isInteger
    simp only [Option.bind_eq_bind, Option.map_bind, Option.bind_eq_some_iff, Function.comp_apply,
      Option.pure_def, Option.map_some, Option.some.injEq] at written
    obtain ⟨magnitude, isNumber, negated⟩ := written
    rw [minus, ← same value fits, ← negated]
    exact exists_read_of_readDigits .minus isNumber
  next digits plus =>
    obtain ⟨value, written, fits⟩ := Option.bind_eq_some_iff.mp isInteger
    obtain ⟨magnitude, isNumber, rfl⟩ := Option.map_eq_some_iff.mp written
    rw [plus, ← same _ fits]
    exact exists_read_of_readDigits .plus isNumber
  next =>
    obtain ⟨value, written, fits⟩ := Option.bind_eq_some_iff.mp isInteger
    obtain ⟨magnitude, isNumber, rfl⟩ := Option.map_eq_some_iff.mp written
    rw [← same _ fits]
    exact exists_read_of_readDigits .none isNumber

/-! ## Texts of numbers -/

/-- A position on the decimal grid is written with digits that denote it. -/
theorem gridText_spec (grid : Nat) :
    ∃ whole fraction dropped,
      (∀ sign negative, IsSign sign negative →
        IsNumeral (sign ++ gridText grid) negative whole fraction) ∧
      fraction.length + dropped = gridPlaces ∧
      natOfDigits (whole ++ fraction) * 10 ^ dropped = grid := by
  have scalePositive : 0 < 10 ^ gridPlaces := Nat.pow_pos (by decide)
  obtain ⟨paddedLength, paddedValue, paddedDigits⟩ :=
    padDigits_digitsOf (by decide : 0 < gridPlaces) (Nat.mod_lt grid scalePositive)
  simp only [gridText, Nat.pow_eq]
  generalize padDigits gridPlaces (digitsOf (grid % 10 ^ gridPlaces)) = padded at *
  obtain ⟨dropped, split⟩ := exists_dropTrailingZeros padded
  generalize dropTrailingZeros padded = fraction at *
  have wholeDigits : ∀ c ∈ digitsOf (grid / 10 ^ gridPlaces), c.isDigit = true :=
    fun c member => isDigit_of_mem_digitsOf member
  have notEmpty : digitsOf (grid / 10 ^ gridPlaces) ≠ [] := digitsOf_ne_nil _
  have wholeValue := natOfDigits_digitsOf (grid / 10 ^ gridPlaces)
  generalize digitsOf (grid / 10 ^ gridPlaces) = whole at *
  subst split
  rw [List.length_append, List.length_replicate] at paddedLength
  have value : natOfDigits (whole ++ fraction) * 10 ^ dropped = grid := by
    have all := natOfDigits_append whole (fraction ++ List.replicate dropped '0')
    rw [← List.append_assoc, natOfDigits_append (whole ++ fraction), natOfDigits_replicate_zero,
      Nat.add_zero, List.length_replicate, wholeValue, List.length_append, List.length_replicate,
      paddedLength, paddedValue] at all
    exact all.trans (Nat.div_add_mod' grid _)
  refine ⟨whole, fraction, dropped, ?_, paddedLength, value⟩
  intro sign negative isSign
  refine ⟨wholeDigits, fun c member => paddedDigits c (List.mem_append_left _ member),
    List.append_ne_nil_of_left_ne_nil notEmpty fraction, sign, ?_⟩
  cases fraction with
  | nil => exact ⟨[], by simp, isSign, .inr ⟨rfl, rfl⟩⟩
  | cons first others => exact ⟨['.'], by simp, isSign, .inl rfl⟩

/-- The digits of a count of units lead back to it. -/
theorem unitsOfGrid_shortestGrid {units : Nat} (exact : nearestUnits units 1 = units) :
    unitsOfGrid (shortestGrid units) = units := by
  have onGrid : unitsOfGrid (gridOfUnits units) = units := by
    have positive : 0 < 5 ^ gridPlaces := Nat.pow_pos (by decide)
    rw [unitsOfGrid, gridOfUnits, Nat.pow_eq]
    generalize 5 ^ gridPlaces = scale at positive ⊢
    have scaled := nearestUnits_mul_right units 1 positive
    rwa [Nat.one_mul, exact] at scaled
  rw [shortestGrid]
  cases found : (List.range' 1 17).findSome? fun kept =>
      (coarseNeighbours (gridOfUnits units) ((digitsOf (gridOfUnits units)).length - kept)).find?
        fun candidate => decide (unitsOfGrid candidate = units) with
  | none => exact onGrid
  | some candidate =>
      obtain ⟨kept, -, chosen⟩ := List.exists_of_findSome?_eq_some found
      have readsBack := List.find?_some chosen
      exact of_decide_eq_true readsBack

/-- A finite number is written as a numeral, and its digits lead to the number. -/
theorem exists_isNumeral_text (negative : Bool) (magnitude : Magnitude) :
    ∃ whole fraction, IsNumeral (text (.finite negative magnitude)).toList negative whole fraction ∧
      ofNumeral negative whole fraction = .finite negative magnitude := by
  have written : (text (.finite negative magnitude)).toList =
      (if negative then ['-'] else []) ++ gridText (shortestGrid magnitude.units) := by
    have noSuffix :
        (if unitsPerOne ∣ magnitude.units then plainFormat.afterWhole else "") = "" := by
      split <;> rfl
    have sign : (signText negative).toList = if negative then ['-'] else [] := by
      cases negative <;> rfl
    rw [text, textIn, noSuffix, String.append_empty, String.toList_append, String.toList_ofList,
      sign]
  have isSign : IsSign (if negative then ['-'] else []) negative := by
    cases negative with
    | false => exact .none
    | true => exact .minus
  obtain ⟨whole, fraction, dropped, numeral, places, value⟩ :=
    gridText_spec (shortestGrid magnitude.units)
  refine ⟨whole, fraction, written ▸ numeral _ negative isSign, ?_⟩
  have scale : unitsPerOne * 5 ^ gridPlaces = 10 ^ gridPlaces := by
    obtain ⟨places, count, perOne, -⟩ := exists_places
    have sameCount : gridPlaces = places := count.symm
    rw [perOne, sameCount, ← Nat.mul_pow]
  have back : nearestUnits (natOfDigits (whole ++ fraction) * unitsPerOne) (10 ^ fraction.length) =
      nearestUnits magnitude.units 1 := by
    rw [magnitude.exact, ← unitsOfGrid_shortestGrid magnitude.exact]
    apply nearestUnits_congr (Nat.pow_pos (by decide)) (Nat.pow_pos (by decide))
    rw [Nat.mul_assoc, scale, ← places, Nat.add_comm, Nat.pow_add, ← Nat.mul_assoc, value]
  rw [ofNumeral, ofRatio, ← ofUnits_units]
  simp only [ofUnits, back]

end Binary64
end Number
end TailView
