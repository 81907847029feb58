import TailView.Amount
import TailView.Proofs.Number.Decimal
import TailView.Proofs.Trimming

/-!
# Written amounts

An amount is written as a numeral directly followed by the name of a unit in any case, with blanks
around.  It is read as the number nearest to what the numeral denotes, and it is refused if that
number is zero, negative or infinite.
-/

namespace TailView

open Number Text

/-! ## The characters of amounts -/

section Characters

variable {c : Char}

/-- No printable character of ASCII is a blank. -/
theorem isBlank_of_printable (least : 32 < c.toNat) (most : c.toNat < 127) : isBlank c = false := by
  simp only [isBlank, Bool.or_eq_false_iff, Bool.and_eq_false_iff, decide_eq_false_iff_not]
  omega

/-- What numerals are written with is no blank, no letter and no colon. -/
theorem plain_of_mem_numeral
    {cs whole fraction : List Char}
    {negative : Bool}
    (numeral : Binary64.IsNumeral cs negative whole fraction)
    (member : c ∈ cs) :
    isBlank c = false ∧ c.isAlpha = false ∧ c ≠ ':' := by
  refine ⟨?_, numeral.no_letter c member, ?_⟩
  · rcases numeral.mem_cases member with digit | rfl | rfl | rfl
    · have range := toNat_of_isDigit digit
      exact isBlank_of_printable (by omega) (by omega)
    · decide
    · decide
    · decide
  · rintro rfl
    rcases numeral.mem_cases member with digit | same | same | same
    · cases digit
    all_goals exact absurd same (by decide)

/-- No letter is a blank or a colon. -/
theorem plain_of_isAlpha (letter : c.isAlpha = true) : isBlank c = false ∧ c ≠ ':' := by
  have range := toNat_of_isAlpha letter
  constructor
  · exact isBlank_of_printable (by omega) (by omega)
  · rintro rfl
    cases letter

end Characters

namespace SizeUnit

variable {letters : List Char} {unit : SizeUnit}

theorem map_toLower_name (unit : SizeUnit) :
    unit.name.toList.map Char.toLower = unit.name.toList := by
  cases unit <;> rfl

/-- A unit is read from its name in any case. -/
theorem read_eq_ok_iff : read letters = .ok unit ↔ letters.map Char.toLower = unit.name.toList := by
  have named : ∀ lower, ofName? lower = some unit ↔ lower = unit.name := by
    intro lower
    constructor
    · intro found
      unfold ofName? at found
      split at found <;> cases found <;> rfl
    · rintro rfl
      cases unit <;> rfl
  rw [read, ← String.ofList_inj, String.ofList_toList, ← named]
  cases ofName? (String.ofList (letters.map Char.toLower)) <;> simp

/-- A unit is written with letters. -/
theorem isAlpha_of_mem
    {c : Char}
    (spelled : letters.map Char.toLower = unit.name.toList)
    (member : c ∈ letters) :
    c.isAlpha = true := by
  have inName : c.toLower ∈ unit.name.toList := by
    rw [← spelled]
    exact List.mem_map_of_mem member
  have checked : unit.name.toList.all Char.isAlpha = true := by cases unit <;> rfl
  exact isAlpha_of_toLower (List.all_eq_true.mp checked _ inName)

end SizeUnit

namespace Amount

open Binary64 (IsNumeral ofNumeral)

variable {cs before number letters after whole fraction : List Char} {negative : Bool}
  {unit : SizeUnit} {amount : Amount}

/-! ## Reading -/

/-- An amount is split where the first letter stands. -/
theorem read_eq_ok_iff_split :
    read cs = .ok amount ↔
      Binary64.read ((trimChars cs).takeWhile fun c => !c.isAlpha) = some amount.value ∧
        amount.value.isPositiveFinite = true ∧
        ((trimChars cs).dropWhile fun c => !c.isAlpha).map Char.toLower =
          amount.unit.name.toList := by
  obtain ⟨value, unit⟩ := amount
  rw [← SizeUnit.read_eq_ok_iff, read]
  simp only [bind, Except.bind, pure, Except.pure, throw, throwThe, MonadExceptOf.throw]
  generalize (trimChars cs).takeWhile (fun c => !c.isAlpha) = number
  generalize (trimChars cs).dropWhile (fun c => !c.isAlpha) = letters
  cases letters with
  | nil =>
      have noUnit : SizeUnit.read [] ≠ .ok unit := nofun
      simp [noUnit]
  | cons first others =>
      rw [List.isEmpty_cons, if_neg (by decide)]
      cases Binary64.read number with
      | none => simp
      | some found =>
          cases positive : found.isPositiveFinite with
          | false =>
              suffices found = value → value.isPositiveFinite = true →
                  SizeUnit.read (first :: others) ≠ .ok unit by simpa [positive]
              rintro rfl isPositive
              rw [positive] at isPositive
              cases isPositive
          | true =>
              cases SizeUnit.read (first :: others) with
              | error => simp [positive]
              | ok otherUnit =>
                  suffices found = value → otherUnit = unit → value.isPositiveFinite = true by
                    simpa [positive]
                  rintro rfl -
                  exact positive

/-- Only positive numbers are read as amounts. -/
theorem isPositiveFinite_of_read (isAmount : read cs = .ok amount) :
    amount.value.isPositiveFinite = true :=
  (read_eq_ok_iff_split.mp isAmount).2.1

/-- A numeral with a unit is read as an amount exactly if it denotes a positive number. -/
theorem read_append_eq_ok_iff
    (blankBefore : ∀ c ∈ before, isBlank c = true)
    (numeral : IsNumeral number negative whole fraction)
    (spelled : letters.map Char.toLower = unit.name.toList)
    (blankAfter : ∀ c ∈ after, isBlank c = true) :
    read (before ++ (number ++ letters) ++ after) = .ok amount ↔
      amount = ⟨ofNumeral negative whole fraction, unit⟩ ∧
        amount.value.isPositiveFinite = true := by
  have trimmed : trimChars (before ++ (number ++ letters) ++ after) = number ++ letters := by
    refine trimChars_append blankBefore blankAfter (.of_forall ?_)
    rw [List.forall_mem_append]
    exact ⟨fun c member => (plain_of_mem_numeral numeral member).1,
      fun c member => (plain_of_isAlpha (SizeUnit.isAlpha_of_mem spelled member)).1⟩
  have noLetter : ∀ c ∈ number, (!c.isAlpha) = true := by
    intro c member
    rw [numeral.no_letter c member]
    rfl
  obtain ⟨first, others, rfl⟩ : ∃ first others, letters = first :: others := by
    apply List.exists_cons_of_ne_nil
    rintro rfl
    cases unit <;> cases spelled
  have isLetter : (!first.isAlpha) = false := by
    rw [SizeUnit.isAlpha_of_mem spelled List.mem_cons_self]
    rfl
  have cut : (number ++ first :: others).takeWhile (fun c => !c.isAlpha) = number ∧
      (number ++ first :: others).dropWhile (fun c => !c.isAlpha) = first :: others :=
    takeWhile_run noLetter isLetter others
  rw [read_eq_ok_iff_split, trimmed, cut.1, cut.2, numeral.read_eq, spelled]
  obtain ⟨value, otherUnit⟩ := amount
  have sameName : unit.name.toList = otherUnit.name.toList ↔ otherUnit = unit := by
    cases unit <;> cases otherUnit <;> decide
  rw [sameName, Option.some.injEq, mk.injEq]
  constructor
  · rintro ⟨isValue, positive, isUnit⟩
    exact ⟨⟨isValue.symm, isUnit⟩, positive⟩
  · rintro ⟨⟨isValue, isUnit⟩, positive⟩
    exact ⟨isValue.symm, positive, isUnit⟩

/-- How an amount may be written: blanks, a numeral for its value, the name of its unit in any case,
and blanks. -/
def IsWritten (cs : List Char) (amount : Amount) : Prop :=
  ∃ before number letters after negative whole fraction,
    cs = before ++ (number ++ letters) ++ after ∧
      (∀ c ∈ before, isBlank c = true) ∧ (∀ c ∈ after, isBlank c = true) ∧
      IsNumeral number negative whole fraction ∧ ofNumeral negative whole fraction = amount.value ∧
      letters.map Char.toLower = amount.unit.name.toList

/-- What is read as an amount is written as one, and the amount is positive. -/
theorem read_eq_ok_iff :
    read cs = .ok amount ↔ IsWritten cs amount ∧ amount.value.isPositiveFinite = true := by
  constructor
  · intro isAmount
    obtain ⟨isNumber, positive, spelled⟩ := read_eq_ok_iff_split.mp isAmount
    obtain ⟨before, after, same, blankBefore, blankAfter⟩ := exists_trimChars cs
    have noLetter : ∀ c ∈ (trimChars cs).takeWhile (fun c => !c.isAlpha), c.isAlpha = false := by
      intro c member
      simpa using List.mem_takeWhile_imp member
    obtain ⟨negative, whole, fraction, numeral, isValue⟩ :=
      (Binary64.read_eq_some_iff noLetter).mp isNumber
    refine ⟨⟨before, _, _, after, negative, whole, fraction, ?_, blankBefore, blankAfter, numeral,
      isValue.symm, spelled⟩, positive⟩
    rw [List.takeWhile_append_dropWhile]
    exact same
  · rintro ⟨⟨before, number, letters, after, negative, whole, fraction, rfl, blankBefore,
      blankAfter, numeral, isValue, spelled⟩, positive⟩
    obtain ⟨value, unit⟩ := amount
    subst isValue
    exact (read_append_eq_ok_iff blankBefore numeral spelled blankAfter).mpr ⟨rfl, positive⟩

/-- A text is read as an amount exactly if it is one, a numeral and a unit with blanks around, and
the number that the numeral denotes is neither zero nor negative nor infinite.  It is so if the
numeral has no minus sign and denotes more than half of the smallest number and less than what is
rounded beyond the largest one. -/
theorem parse_eq_ok_iff_isWritten (s : String) (amount : Amount) :
    (parse s = .ok amount ↔
      IsWritten s.toList amount ∧ amount.value.isPositiveFinite = true) ∧
      ∀ negative whole fraction,
        (ofNumeral negative whole fraction).isPositiveFinite = true ↔
          negative = false ∧ 10 ^ fraction.length < natOfDigits (whole ++ fraction) * 2 ^ 1075 ∧
            natOfDigits (whole ++ fraction) < (2 ^ 1024 - 2 ^ 970) * 10 ^ fraction.length :=
  ⟨read_eq_ok_iff, fun _ _ _ => Binary64.isPositiveFinite_ofNumeral_iff⟩

/-! ## Texts of amounts -/

theorem toList_text (amount : Amount) :
    amount.text.toList = amount.value.text.toList ++ amount.unit.name.toList := by
  rw [text, String.toList_append]

/-- What is no number is refused in front of any unit. -/
theorem read_text_ne_ok_of_not_finite
    {value : Binary64}
    (notFinite : value = .nan ∨ ∃ negative, value = .infinity negative)
    (unit : SizeUnit)
    (other : Amount) :
    read (value.text.toList ++ unit.name.toList) ≠ .ok other := by
  have refused : (read (value.text.toList ++ unit.name.toList)).toOption = none := by
    rcases notFinite with rfl | ⟨negative, rfl⟩
    · cases unit <;> decide +kernel
    · cases unit <;> cases negative <;> decide +kernel
  intro isAmount
  rw [isAmount] at refused
  cases refused

/-- The text of an amount is read as that amount if it is positive, and refused otherwise. -/
theorem read_text_eq_ok_iff (amount other : Amount) :
    read amount.text.toList = .ok other ↔
      other = amount ∧ amount.value.isPositiveFinite = true := by
  obtain ⟨value, unit⟩ := amount
  rw [toList_text]
  cases value with
  | nan =>
      refine iff_of_false (read_text_ne_ok_of_not_finite (.inl rfl) unit other) ?_
      rintro ⟨-, positive⟩
      cases positive
  | infinity negative =>
      refine iff_of_false (read_text_ne_ok_of_not_finite (.inr ⟨negative, rfl⟩) unit other) ?_
      rintro ⟨-, positive⟩
      cases positive
  | finite negative magnitude =>
      obtain ⟨whole, fraction, numeral, isValue⟩ :=
        Binary64.exists_isNumeral_text negative magnitude
      have isAmount : read ([] ++ (_ ++ unit.name.toList) ++ []) = .ok other ↔ _ :=
        read_append_eq_ok_iff (List.forall_mem_nil _) numeral (SizeUnit.map_toLower_name unit)
          (List.forall_mem_nil _)
      rw [List.nil_append, List.append_nil, isValue] at isAmount
      rw [isAmount]
      constructor
      · rintro ⟨rfl, positive⟩
        exact ⟨rfl, positive⟩
      · rintro ⟨rfl, positive⟩
        exact ⟨rfl, positive⟩

/-- The text of an amount has no blank and no colon. -/
theorem plain_of_mem_text {c : Char} (amount : Amount) (member : c ∈ amount.text.toList) :
    isBlank c = false ∧ c ≠ ':' := by
  obtain ⟨value, unit⟩ := amount
  rw [toList_text, List.mem_append] at member
  rcases member with inValue | inUnit
  · cases value with
    | nan =>
        have plain : Binary64.nan.text.toList.all (fun c => !isBlank c && c != ':') = true := by
          decide
        simpa using List.all_eq_true.mp plain c inValue
    | infinity negative =>
        have plain : (Binary64.infinity negative).text.toList.all
            (fun c => !isBlank c && c != ':') = true := by cases negative <;> decide
        simpa using List.all_eq_true.mp plain c inValue
    | finite negative magnitude =>
        obtain ⟨_, _, numeral, _⟩ := Binary64.exists_isNumeral_text negative magnitude
        obtain ⟨notBlank, -, notColon⟩ := plain_of_mem_numeral numeral inValue
        exact ⟨notBlank, notColon⟩
  · exact plain_of_isAlpha (SizeUnit.isAlpha_of_mem (SizeUnit.map_toLower_name unit) inUnit)

theorem colon_not_mem_text (amount : Amount) : ':' ∉ amount.text.toList :=
  fun member => (amount.plain_of_mem_text member).2 rfl

theorem text_ne_nil (amount : Amount) : amount.text.toList ≠ [] := by
  rw [toList_text]
  cases amount.unit <;> exact List.append_ne_nil_of_right_ne_nil _ (by decide)

end Amount
end TailView
