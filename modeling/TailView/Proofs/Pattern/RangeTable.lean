import Mathlib.Tactic.ByContra
import TailView.Pattern.Lowering

/-!
# Code points in tables

When the ranges of a table are in order, halving finds the range with a code point, so a code point
is found in the table exactly if one of the ranges has it.  The table of decimal digits is in order,
and holds the same characters as the one for that general category.
-/

namespace TailView
namespace Pattern
namespace RangeTable

variable {ranges : Array (Nat × Nat)} {table : RangeTable} {code index low high : Nat}

/-- No range is empty, and each one ends before the next begins. -/
structure Ascending (ranges : Array (Nat × Nat)) : Prop where
  /-- No range is empty. -/
  nonempty : ∀ range ∈ ranges.toList, range.1 ≤ range.2
  /-- Each range ends before the next begins. -/
  apart : ranges.toList.Pairwise fun earlier later => earlier.2 < later.1

theorem Ascending.le
    (ascending : Ascending ranges)
    (found : ranges[index]? = some (low, high)) :
    low ≤ high := by
  obtain ⟨inside, same⟩ := Array.getElem?_eq_some_iff.mp found
  have member : (low, high) ∈ ranges.toList := by
    rw [← same, Array.mem_toList_iff]
    exact Array.getElem_mem inside
  exact ascending.nonempty _ member

/-- Earlier ranges end before later ones begin. -/
theorem Ascending.lt
    (ascending : Ascending ranges)
    {otherIndex otherLow otherHigh : Nat}
    (found : ranges[index]? = some (low, high))
    (other : ranges[otherIndex]? = some (otherLow, otherHigh))
    (before : index < otherIndex) :
    high < otherLow := by
  obtain ⟨inside, same⟩ := Array.getElem?_eq_some_iff.mp found
  obtain ⟨otherInside, otherSame⟩ := Array.getElem?_eq_some_iff.mp other
  have apart := List.pairwise_iff_getElem.mp ascending.apart index otherIndex inside otherInside
    before
  rwa [Array.getElem_toList, Array.getElem_toList, same, otherSame] at apart

/-- Halving ends at the range with the code point if that range is in the part that is searched. -/
theorem narrow_eq
    (ascending : Ascending ranges)
    (found : ranges[index]? = some (low, high))
    (atLeast : low ≤ code)
    (atMost : code ≤ high)
    (base size : Nat)
    (fromBase : base ≤ index)
    (inPart : index < base + size) :
    narrow ranges code base size = index := by
  induction size using Nat.strongRecOn generalizing base with
  | ind size inductionHypothesis =>
      unfold narrow
      split
      · omega
      · have smaller : size - size / 2 < size := by omega
        cases middle : ranges[base + size / 2]? with
        | none =>
            have missing := Array.getElem?_eq_none_iff.mp middle
            obtain ⟨inside, _⟩ := Array.getElem?_eq_some_iff.mp found
            simp only [middle]
            exact inductionHypothesis _ smaller base fromBase (by omega)
        | some range =>
            obtain ⟨middleLow, middleHigh⟩ := range
            simp only [middle]
            split
            · next below =>
                -- the code point is below the range in the middle, so its range is before that
                have before : index < base + size / 2 := by
                  by_contra outside
                  rcases Nat.lt_or_eq_of_le (Nat.le_of_not_lt outside) with after | same
                  · have ends := ascending.lt middle found after
                    have begins := ascending.le middle
                    omega
                  · rw [← same, middle] at found
                    cases found
                    omega
                exact inductionHypothesis _ smaller base fromBase (by omega)
            · next notBelow =>
                have fromMiddle : base + size / 2 ≤ index := by
                  by_contra outside
                  have ends := ascending.lt found middle (by omega)
                  omega
                have inside : index < base + size / 2 + (size - size / 2) := by omega
                exact inductionHypothesis _ smaller _ fromMiddle inside

/-- A code point is found exactly if one of the ranges has it. -/
theorem contains_iff (ascending : Ascending table.ranges) :
    table.contains code = true ↔
      ∃ range ∈ table.ranges.toList, range.1 ≤ code ∧ code ≤ range.2 := by
  unfold contains
  constructor
  · intro found
    split at found
    next low high place =>
      obtain ⟨inside, same⟩ := Array.getElem?_eq_some_iff.mp place
      rw [Bool.and_eq_true, decide_eq_true_eq, decide_eq_true_eq] at found
      refine ⟨(low, high), ?_, found⟩
      rw [← same, Array.mem_toList_iff]
      exact Array.getElem_mem inside
    next => cases found
  · rintro ⟨⟨low, high⟩, member, atLeast, atMost⟩
    obtain ⟨index, inside, same⟩ := Array.mem_iff_getElem.mp (Array.mem_toList_iff.mp member)
    have found : table.ranges[index]? = some (low, high) :=
      Array.getElem?_eq_some_iff.mpr ⟨inside, same⟩
    rw [narrow_eq ascending found atLeast atMost 0 _ (Nat.zero_le _) (by omega), found]
    exact Bool.and_eq_true_iff.mpr ⟨decide_eq_true atLeast, decide_eq_true atMost⟩

/-- The code points of a table. -/
def codes (table : RangeTable) : List Nat :=
  table.ranges.toList.flatMap fun range => List.range' range.1 (range.2 + 1 - range.1)

theorem contains_iff_mem_codes (ascending : Ascending table.ranges) :
    table.contains code = true ↔ code ∈ table.codes := by
  rw [contains_iff ascending, codes, List.mem_flatMap]
  refine exists_congr fun range => and_congr_right fun _ => ?_
  rw [List.mem_range'_1]
  omega

end RangeTable

/-! ## Decimal digits -/

/-- The runs of decimal digits as a table. -/
def digitTable : RangeTable :=
  ⟨((48 :: Text.digitRunStarts).map fun first => (first, first + 9)).toArray⟩

theorem ascending_digitTable : RangeTable.Ascending digitTable.ranges :=
  ⟨by decide +kernel, by decide +kernel⟩

/-- The decimal digits of Unicode are what the class of digits holds. -/
theorem contains_digits (c : Char) :
    (Flags.shorthandSet true .digit).contains c.toNat = Text.isDecimalDigit c := by
  rw [show Flags.shorthandSet true .digit = .table digitTable from rfl, Bool.eq_iff_iff,
    CharSet.contains, RangeTable.contains_iff ascending_digitTable, Text.isDecimalDigit,
    Bool.or_eq_true, List.any_eq_true]
  have ascii : c.isDigit = true ↔ 48 ≤ c.toNat ∧ c.toNat ≤ 57 := by
    rw [Char.isDigit, Bool.and_eq_true, decide_eq_true_eq, decide_eq_true_eq]
    exact Iff.rfl
  simp only [digitTable, List.map_cons, List.mem_cons, or_and_right, exists_or, exists_eq_left,
    List.mem_map, ascii, Bool.and_eq_true, decide_eq_true_eq]
  refine or_congr_right ⟨?_, ?_⟩
  · rintro ⟨_, ⟨first, member, rfl⟩, atLeast, atMost⟩
    exact ⟨first, member, atLeast, Nat.lt_succ_of_le atMost⟩
  · rintro ⟨first, member, atLeast, below⟩
    exact ⟨_, ⟨first, member, rfl⟩, atLeast, Nat.le_of_lt_succ below⟩

/-- A range in front of others, as one with the first of them if they touch. -/
def join (range : Nat × Nat) : List (Nat × Nat) → List (Nat × Nat)
  | [] => [range]
  | (low, high) :: rest =>
      if range.2 + 1 = low then (range.1, high) :: rest else range :: (low, high) :: rest

/-- The runs of decimal digits, where those that touch are one. -/
def joinedDigits : RangeTable := ⟨(digitTable.ranges.toList.foldr join []).toArray⟩

theorem ascending_joinedDigits : RangeTable.Ascending joinedDigits.ranges :=
  ⟨by decide +kernel, by decide +kernel⟩

/-- The class of digits holds the characters of the general category of decimal numbers. -/
theorem contains_decimalNumbers (c : Char) :
    (NamedRanges.find? Unicode.categories "nd").any (·.contains c.toNat) =
      Text.isDecimalDigit c := by
  have found : NamedRanges.find? Unicode.categories "nd" = some joinedDigits := by decide +kernel
  have sameCodes : joinedDigits.codes = digitTable.codes := by decide +kernel
  rw [found, Option.any_some, ← contains_digits, Bool.eq_iff_iff,
    RangeTable.contains_iff_mem_codes ascending_joinedDigits, sameCodes,
    ← RangeTable.contains_iff_mem_codes ascending_digitTable]
  exact Iff.rfl

end Pattern
end TailView
