import Mathlib.Data.List.Induction
import Mathlib.Data.List.TakeWhile
import TailView.Number.Decimal
import TailView.Proofs.Number.Rounding

/-!
# Numerals

A number is written as a sign, which may be left out, and digits with at most one point.  However
many digits there are, such a text is read as the number nearest to the quotient that it denotes,
and no other text without letters is read as a number.
-/

namespace TailView

/-- A run is cut off where another character follows. -/
theorem Text.takeWhile_run
    {run : List Char}
    {p : Char → Bool}
    {c : Char}
    (all : ∀ c ∈ run, p c = true)
    (stop : p c = false)
    (rest : List Char) :
    (run ++ c :: rest).takeWhile p = run ∧ (run ++ c :: rest).dropWhile p = c :: rest := by
  have stops : ¬p c = true := by
    rw [stop]
    exact Bool.false_ne_true
  constructor
  · rw [List.takeWhile_append_of_pos all, List.takeWhile_cons_of_neg stops, List.append_nil]
  · rw [List.dropWhile_append_of_pos all, List.dropWhile_cons_of_neg stops]

namespace Number

/-! ## Letters and runs of digits -/

section Digits

variable {digits more : List Char}

theorem toNat_of_isDigit {c : Char} (digit : c.isDigit = true) : 48 ≤ c.toNat ∧ c.toNat ≤ 57 := by
  simp only [Char.isDigit, Bool.and_eq_true, decide_eq_true_eq, ge_iff_le,
    UInt32.le_iff_toNat_le] at digit
  exact digit

theorem toNat_of_isAlpha {c : Char} (letter : c.isAlpha = true) :
    65 ≤ c.toNat ∧ c.toNat ≤ 90 ∨ 97 ≤ c.toNat ∧ c.toNat ≤ 122 := by
  change (decide (65 ≤ c.val ∧ c.val ≤ 90) || decide (97 ≤ c.val) && decide (c.val ≤ 122)) = true
    at letter
  simp only [Bool.or_eq_true, Bool.and_eq_true, decide_eq_true_eq, UInt32.le_iff_toNat_le] at letter
  exact letter

/-- Only letters become letters. -/
theorem isAlpha_of_toLower {c : Char} (letter : c.toLower.isAlpha = true) : c.isAlpha = true := by
  by_cases upper : c.isUpper = true
  · exact Bool.or_eq_true_iff.mpr (.inl upper)
  · have same : c.toLower = c := dif_neg fun range => upper (decide_eq_true range)
    rwa [same] at letter

theorem natOfDigits_eq (digits : List Char) : natOfDigits digits = Nat.ofDigitChars 10 digits 0 :=
  rfl

@[simp] theorem natOfDigits_digitsOf (n : Nat) : natOfDigits (digitsOf n) = n :=
  Nat.ofDigitChars_ten_toDigits

theorem natOfDigits_append (digits more : List Char) :
    natOfDigits (digits ++ more) = natOfDigits digits * 10 ^ more.length + natOfDigits more := by
  rw [natOfDigits_eq, Nat.ofDigitChars_append, Nat.ofDigitChars_eq_ofDigitChars_zero, Nat.mul_comm]
  rfl

theorem natOfDigits_replicate_zero (width : Nat) :
    natOfDigits (List.replicate width '0') = 0 :=
  Nat.ofDigitChars_replicate_zero

/-- A number is below the power of ten with as many zeros as it has digits. -/
theorem natOfDigits_lt (allDigits : ∀ c ∈ digits, c.isDigit = true) :
    natOfDigits digits < 10 ^ digits.length := by
  induction digits using List.reverseRecOn with
  | nil => decide
  | append_singleton digits c inductionHypothesis =>
      rw [List.forall_mem_append, List.forall_mem_singleton] at allDigits
      have smaller := inductionHypothesis allDigits.1
      have range := toNat_of_isDigit allDigits.2
      have last : natOfDigits [c] = c.toNat - 48 := by
        simp [natOfDigits]
      rw [natOfDigits_append, last, List.length_append, List.length_singleton, Nat.pow_one,
        Nat.pow_succ]
      omega

theorem isDigit_of_mem_digitsOf {n : Nat} {c : Char} (member : c ∈ digitsOf n) : c.isDigit = true :=
  Nat.isDigit_of_mem_toDigits (by decide) (by decide) member

theorem digitsOf_ne_nil (n : Nat) : digitsOf n ≠ [] := Nat.toDigits_ne_nil

/-- A number with few digits is small, and a small one has few. -/
theorem length_digitsOf_le_iff {n width : Nat} (positive : 0 < width) :
    (digitsOf n).length ≤ width ↔ n < 10 ^ width :=
  Nat.length_toDigits_le_iff (by decide) positive

theorem lt_pow_length_digitsOf (n : Nat) : n < 10 ^ (digitsOf n).length :=
  (length_digitsOf_le_iff (List.length_pos_iff.mpr (digitsOf_ne_nil n))).mp (Nat.le_refl _)

/-- Padding a small number fills the whole width and does not change the value. -/
theorem padDigits_digitsOf {n width : Nat} (positive : 0 < width) (small : n < 10 ^ width) :
    (padDigits width (digitsOf n)).length = width ∧ natOfDigits (padDigits width (digitsOf n)) = n ∧
      ∀ c ∈ padDigits width (digitsOf n), c.isDigit = true := by
  have fits : (digitsOf n).length ≤ width := (length_digitsOf_le_iff positive).mpr small
  refine ⟨?_, ?_, ?_⟩
  · rw [padDigits, List.length_append, List.length_replicate]
    omega
  · rw [padDigits, natOfDigits_append, natOfDigits_replicate_zero, Nat.zero_mul, Nat.zero_add,
      natOfDigits_digitsOf]
  · intro c member
    rcases List.mem_append.mp member with zero | digit
    · rw [List.eq_of_mem_replicate zero]
      decide
    · exact isDigit_of_mem_digitsOf digit

end Digits

namespace Binary64

variable {cs body sign whole fraction rest : List Char} {negative : Bool} {x : Binary64}

/-! ## Powers of ten -/

section Scientific

variable {coefficient places : Nat}

/-- Four hundred decimal places tell every number from nothing and from the limit. -/
theorem exists_width :
    ∃ width ≤ 400, 2 * unitsPerOne ≤ 10 ^ width ∧
      (2 ^ 54 - 1) * 2 ^ 2044 ≤ 10 ^ width * unitsPerOne :=
  ⟨324, by decide, by decide +kernel, by decide +kernel⟩

/-- A quotient that is not rounded to nothing has few places more than digits. -/
theorem places_le_of_nearestUnits_pos
    (positive : 0 < nearestUnits (coefficient * unitsPerOne) (10 ^ places)) :
    places ≤ (digitsOf coefficient).length + 400 := by
  obtain ⟨low, lowBound, unitsSmall, -⟩ := exists_width
  have power : 10 ^ places < 10 ^ ((digitsOf coefficient).length + low) := by
    calc
      10 ^ places < 2 * (coefficient * unitsPerOne) := nearestUnits_pos_iff.mp positive
      _ = coefficient * (2 * unitsPerOne) := Nat.mul_left_comm ..
      _ ≤ coefficient * 10 ^ low := Nat.mul_le_mul_left _ unitsSmall
      _ ≤ 10 ^ (digitsOf coefficient).length * 10 ^ low :=
        Nat.mul_le_mul_right _ (Nat.le_of_lt (lt_pow_length_digitsOf coefficient))
      _ = 10 ^ ((digitsOf coefficient).length + low) := (Nat.pow_add ..).symm
  have := (Nat.pow_lt_pow_iff_right (by decide)).mp power
  omega

/-- A quotient that is rounded to a number has few digits more than places. -/
theorem length_digitsOf_le_of_nearestUnits_lt
    (bounded : nearestUnits (coefficient * unitsPerOne) (10 ^ places) < unitsLimit) :
    (digitsOf coefficient).length ≤ places + 400 := by
  obtain ⟨high, highBound, -, limitSmall⟩ := exists_width
  have power : coefficient * unitsPerOne < 10 ^ (places + high) * unitsPerOne := by
    calc
      coefficient * unitsPerOne < (2 ^ 54 - 1) * 2 ^ 2044 * 10 ^ places :=
        (nearestUnits_lt_unitsLimit_iff (Nat.pow_pos (by decide))).mp bounded
      _ ≤ 10 ^ high * unitsPerOne * 10 ^ places := Nat.mul_le_mul_right _ limitSmall
      _ = 10 ^ high * 10 ^ places * unitsPerOne := Nat.mul_right_comm ..
      _ = 10 ^ (places + high) * unitsPerOne := by rw [← Nat.pow_add, Nat.add_comm]
  have small : coefficient < 10 ^ (places + 400) :=
    Nat.lt_of_lt_of_le (Nat.lt_of_mul_lt_mul_right power)
      (Nat.pow_le_pow_right (by decide) (by omega))
  exact (length_digitsOf_le_iff (by omega)).mpr small

/-- Digits are read as the quotient that they denote, also where the power is not computed. -/
theorem ofScientific_eq_ofRatio (negative : Bool) (digits : List Char) (places : Nat) :
    ofScientific negative digits (0 - places) =
      ofRatio negative (natOfDigits digits) (10 ^ places) := by
  rw [ofScientific]
  split_ifs with tiny huge noPlaces
  · have nothing : nearestUnits (natOfDigits digits * unitsPerOne) (10 ^ places) = 0 := by
      by_contra something
      have positive := Nat.pos_of_ne_zero something
      have few := places_le_of_nearestUnits_pos positive
      rcases tiny with zero | tiny
      · rw [zero, Nat.zero_mul, nearestUnits_zero] at positive
        exact absurd positive (Nat.lt_irrefl 0)
      · omega
    simp only [ofRatio, ofUnits, nothing, Nat.zero_mul, nearestUnits_zero]
  · have beyond : ¬nearestUnits (natOfDigits digits * unitsPerOne) (10 ^ places) < unitsLimit := by
      intro bounded
      have few := length_digitsOf_le_of_nearestUnits_lt bounded
      omega
    rw [ofRatio, ofUnits, dif_neg beyond]
  · have none : places = 0 := by omega
    subst none
    rw [show ((0 : Int) - (0 : Nat)).toNat = 0 from rfl, Nat.pow_eq, Nat.pow_zero, Nat.mul_one]
  · rw [show (-((0 : Int) - places)).toNat = places by omega, Nat.pow_eq]

end Scientific

/-! ## The grammar of numerals -/

/-- A sign, which may be left out. -/
inductive IsSign : List Char → Bool → Prop
  | none : IsSign [] false
  | plus : IsSign ['+'] false
  | minus : IsSign ['-'] true

/-- A text is a sign and digits, at least one, with a point before, among or behind them perhaps. -/
structure IsNumeral (cs : List Char) (negative : Bool) (whole fraction : List Char) : Prop where
  /-- Digits stand before the point. -/
  wholeDigits : ∀ c ∈ whole, c.isDigit = true
  /-- Digits stand behind the point. -/
  fractionDigits : ∀ c ∈ fraction, c.isDigit = true
  /-- There is a digit. -/
  someDigit : whole ++ fraction ≠ []
  /-- Without a point there are no digits behind it. -/
  written : ∃ sign point, cs = sign ++ (whole ++ (point ++ fraction)) ∧ IsSign sign negative ∧
    (point = ['.'] ∨ point = [] ∧ fraction = [])

/-- The number nearest to what a numeral denotes. -/
def ofNumeral (negative : Bool) (whole fraction : List Char) : Binary64 :=
  ofRatio negative (natOfDigits (whole ++ fraction)) (10 ^ fraction.length)

/-- What a numeral is made of. -/
theorem IsNumeral.mem_cases
    {c : Char}
    (numeral : IsNumeral cs negative whole fraction)
    (member : c ∈ cs) :
    c.isDigit = true ∨ c = '.' ∨ c = '+' ∨ c = '-' := by
  obtain ⟨wholeDigits, fractionDigits, -, sign, point, rfl, isSign, hasPoint⟩ := numeral
  simp only [List.mem_append] at member
  rcases member with inSign | inWhole | inPoint | inFraction
  · cases isSign <;> simp_all
  · exact .inl (wholeDigits c inWhole)
  · rcases hasPoint with rfl | ⟨rfl, -⟩ <;> simp_all
  · exact .inl (fractionDigits c inFraction)

theorem IsNumeral.no_letter (numeral : IsNumeral cs negative whole fraction) :
    ∀ c ∈ cs, c.isAlpha = false := by
  intro c member
  rcases numeral.mem_cases member with digit | rfl | rfl | rfl
  · have range := toNat_of_isDigit digit
    rw [← Bool.not_eq_true]
    intro letter
    have otherRange := toNat_of_isAlpha letter
    omega
  · decide
  · decide
  · decide

/-! ## Numerals above zero -/

theorem isPositiveFinite_ofUnits_iff {num den : Nat} :
    (ofUnits negative num den).isPositiveFinite = true ↔
      negative = false ∧ 0 < nearestUnits num den ∧ nearestUnits num den < unitsLimit := by
  rw [ofUnits]
  split
  next bounded =>
    rw [isPositiveFinite, Bool.and_eq_true, Bool.not_eq_true', bne_iff_ne, Nat.pos_iff_ne_zero,
      and_iff_left bounded]
  next beyond =>
    exact iff_of_false Bool.false_ne_true fun fits => beyond fits.2.2

/-- A numeral denotes a positive number if it is above half of the smallest one and below the middle
between the largest one and the next power of two. -/
theorem isPositiveFinite_ofNumeral_iff :
    (ofNumeral negative whole fraction).isPositiveFinite = true ↔
      negative = false ∧ 10 ^ fraction.length < natOfDigits (whole ++ fraction) * 2 ^ 1075 ∧
        natOfDigits (whole ++ fraction) < (2 ^ 1024 - 2 ^ 970) * 10 ^ fraction.length := by
  obtain ⟨places, count, perOne, -⟩ := exists_places
  have half : 2 ^ 1075 = 2 * unitsPerOne := by
    have exponent : 1075 = places + 1 := by omega
    rw [exponent, Nat.pow_succ', perOne]
  have middle : (2 ^ 54 - 1) * 2 ^ 2044 = (2 ^ 1024 - 2 ^ 970) * unitsPerOne := by decide +kernel
  rw [ofNumeral, ofRatio, isPositiveFinite_ofUnits_iff, nearestUnits_pos_iff,
    nearestUnits_lt_unitsLimit_iff (Nat.pow_pos (by decide)), half, middle,
    Nat.mul_left_comm (natOfDigits _) 2, Nat.mul_right_comm _ unitsPerOne,
    Nat.mul_lt_mul_right unitsPerOne_pos]

/-! ## Reading -/

theorem exists_takeSign (cs : List Char) :
    ∃ sign, IsSign sign (takeSign cs).1 ∧ cs = sign ++ (takeSign cs).2 := by
  rw [takeSign.eq_def]
  split
  · exact ⟨['-'], .minus, rfl⟩
  · exact ⟨['+'], .plus, rfl⟩
  · exact ⟨[], .none, rfl⟩

/-- A sign ends where something else starts. -/
theorem takeSign_append
    (isSign : IsSign sign negative)
    (unsigned : ∀ c ∈ body.head?, c.isDigit = true ∨ c = '.') :
    takeSign (sign ++ body) = (negative, body) := by
  cases isSign with
  | plus | minus => rfl
  | none =>
      rw [List.nil_append, takeSign.eq_def]
      split
      · exact absurd (unsigned '-' rfl) (by decide)
      · exact absurd (unsigned '+' rfl) (by decide)
      · rfl

theorem takeDecimal_of_isDigit (allDigits : ∀ c ∈ whole, c.isDigit = true) :
    takeDecimal whole = (whole, [], []) := by
  have all : whole.takeWhile Char.isDigit = whole := List.takeWhile_eq_self_iff.mpr allDigits
  have rest : whole.dropWhile Char.isDigit = [] := List.dropWhile_eq_nil_iff.mpr allDigits
  rw [takeDecimal, rest, all]

theorem takeDecimal_append
    (wholeDigits : ∀ c ∈ whole, c.isDigit = true)
    (fractionDigits : ∀ c ∈ fraction, c.isDigit = true) :
    takeDecimal (whole ++ '.' :: fraction) = (whole, fraction, []) := by
  obtain ⟨beforePoint, fromPoint⟩ :=
    Text.takeWhile_run wholeDigits (by decide : Char.isDigit '.' = false) fraction
  simp only [takeDecimal, fromPoint, beforePoint, List.takeWhile_eq_self_iff.mpr fractionDigits,
    List.dropWhile_eq_nil_iff.mpr fractionDigits]

/-- All of a text is read as digits exactly if it consists of digits and at most one point. -/
theorem takeDecimal_eq_iff :
    takeDecimal cs = (whole, fraction, []) ↔
      (∀ c ∈ whole, c.isDigit = true) ∧ (∀ c ∈ fraction, c.isDigit = true) ∧
        ∃ point, cs = whole ++ (point ++ fraction) ∧
          (point = ['.'] ∨ point = [] ∧ fraction = []) := by
  constructor
  · intro taken
    have parts : cs.takeWhile Char.isDigit ++ cs.dropWhile Char.isDigit = cs :=
      List.takeWhile_append_dropWhile
    have digits : ∀ cs : List Char, ∀ c ∈ cs.takeWhile Char.isDigit, c.isDigit = true :=
      fun _ _ member => List.mem_takeWhile_imp member
    rw [takeDecimal] at taken
    split at taken
    next rest atPoint =>
      rw [Prod.mk.injEq, Prod.mk.injEq] at taken
      obtain ⟨rfl, rfl, ended⟩ := taken
      refine ⟨digits cs, digits rest, ['.'], ?_, .inl rfl⟩
      rw [List.takeWhile_eq_self_iff.mpr (List.dropWhile_eq_nil_iff.mp ended),
        List.singleton_append, ← atPoint, parts]
    next =>
      rw [Prod.mk.injEq, Prod.mk.injEq] at taken
      obtain ⟨rfl, rfl, ended⟩ := taken
      rw [ended] at parts
      exact ⟨digits cs, List.forall_mem_nil _, [], parts.symm, .inr ⟨rfl, rfl⟩⟩
  · rintro ⟨wholeDigits, fractionDigits, _, rfl, rfl | ⟨rfl, rfl⟩⟩
    · exact takeDecimal_append wholeDigits fractionDigits
    · rw [List.append_nil, List.append_nil]
      exact takeDecimal_of_isDigit wholeDigits

/-- What is left behind the digits stands in the text. -/
theorem mem_of_mem_takeDecimal {c : Char} (member : c ∈ (takeDecimal cs).2.2) : c ∈ cs := by
  have within : ∀ cs : List Char, ∀ c ∈ cs.dropWhile Char.isDigit, c ∈ cs :=
    fun cs c member => (List.dropWhile_suffix Char.isDigit).mem member
  rw [takeDecimal] at member
  split at member
  next rest atPoint =>
    apply within cs
    rw [atPoint]
    exact List.mem_cons_of_mem _ (within rest c member)
  next => exact within cs c member

/-- An exponent starts with a letter. -/
theorem eq_nil_of_readExponent
    {exponent : Int}
    (noLetter : ∀ c ∈ rest, c.isAlpha = false)
    (isExponent : readExponent rest = some exponent) :
    rest = [] := by
  cases rest with
  | nil => rfl
  | cons mark rest =>
      have plain := noLetter mark List.mem_cons_self
      have noMark : ¬(mark = 'e' ∨ mark = 'E') := by
        rintro (rfl | rfl) <;> cases plain
      rw [readExponent, if_neg noMark] at isExponent
      cases isExponent

/-- Without letters a text is no name, so it is read as digits. -/
theorem read_of_no_letter (noLetter : ∀ c ∈ cs, c.isAlpha = false) :
    read cs =
      let (negative, body) := takeSign cs
      let (whole, fraction, rest) := takeDecimal body
      if whole ++ fraction ≠ [] ∧ rest = [] then some (ofNumeral negative whole fraction)
      else none := by
  obtain ⟨sign, isSign, same⟩ := exists_takeSign cs
  rw [read]
  generalize takeSign cs = taken at *
  obtain ⟨negative, body⟩ := taken
  dsimp only at same ⊢
  have plain : ∀ c ∈ body, c.isAlpha = false := by
    intro c member
    exact noLetter c (same ▸ List.mem_append_right sign member)
  have noName : ∀ name : List Char, name ≠ [] → name.all Char.isAlpha = true →
      String.ofList (body.map Char.toLower) ≠ String.ofList name := by
    intro name nonempty letters isName
    obtain ⟨c, rest, rfl⟩ := List.exists_cons_of_ne_nil nonempty
    have first : c ∈ body.map Char.toLower := by
      rw [String.ofList_inj.mp isName]
      exact List.mem_cons_self
    obtain ⟨d, member, rfl⟩ := List.mem_map.mp first
    have isLetter := isAlpha_of_toLower (List.all_eq_true.mp letters _ List.mem_cons_self)
    rw [plain d member] at isLetter
    cases isLetter
  split
  next isInf => exact absurd isInf (noName ['i', 'n', 'f'] nofun rfl)
  next isInfinity =>
    exact absurd isInfinity (noName ['i', 'n', 'f', 'i', 'n', 'i', 't', 'y'] nofun rfl)
  next isNan => exact absurd isNan (noName ['n', 'a', 'n'] nofun rfl)
  next =>
    have noExponent : ∀ c ∈ (takeDecimal body).2.2, c.isAlpha = false :=
      fun c member => plain c (mem_of_mem_takeDecimal member)
    generalize takeDecimal body = parts at *
    obtain ⟨whole, fraction, rest⟩ := parts
    dsimp only at noExponent ⊢
    have empty : (whole.isEmpty && fraction.isEmpty) = true ↔ whole ++ fraction = [] := by
      rw [Bool.and_eq_true, List.isEmpty_iff, List.isEmpty_iff, List.append_eq_nil_iff]
    by_cases noDigit : whole ++ fraction = []
    · rw [if_pos (empty.mpr noDigit), if_neg fun both => both.1 noDigit]
    · rw [if_neg fun isEmpty => noDigit (empty.mp isEmpty)]
      by_cases ended : rest = []
      · rw [if_pos ⟨noDigit, ended⟩, ended, readExponent, Option.map_some, ofScientific_eq_ofRatio,
          ofNumeral]
      · have noNumber : readExponent rest = none :=
          Option.eq_none_iff_forall_ne_some.mpr fun _ isExponent =>
            ended (eq_nil_of_readExponent noExponent isExponent)
        rw [if_neg fun both => ended both.2, noNumber, Option.map_none]

/-- The texts without letters that are read as numbers are the numerals. -/
theorem read_eq_some_iff (noLetter : ∀ c ∈ cs, c.isAlpha = false) :
    read cs = some x ↔
      ∃ negative whole fraction, IsNumeral cs negative whole fraction ∧
        x = ofNumeral negative whole fraction := by
  rw [read_of_no_letter noLetter]
  constructor
  · obtain ⟨sign, isSign, same⟩ := exists_takeSign cs
    generalize takeSign cs = taken at *
    obtain ⟨negative, body⟩ := taken
    cases decimal : takeDecimal body with
    | mk whole others =>
    obtain ⟨fraction, rest⟩ := others
    dsimp only at isSign same ⊢
    rw [decimal]
    intro isNumber
    rw [Option.ite_none_right_eq_some, Option.some.injEq] at isNumber
    obtain ⟨⟨someDigit, rfl⟩, rfl⟩ := isNumber
    obtain ⟨wholeDigits, fractionDigits, point, rfl, hasPoint⟩ := takeDecimal_eq_iff.mp decimal
    exact ⟨negative, whole, fraction, ⟨wholeDigits, fractionDigits, someDigit, sign, point, same,
      isSign, hasPoint⟩, rfl⟩
  · rintro ⟨negative, whole, fraction, numeral, isNearest⟩
    obtain ⟨wholeDigits, fractionDigits, someDigit, sign, point, rfl, isSign, hasPoint⟩ := numeral
    have decimal : takeDecimal (whole ++ (point ++ fraction)) = (whole, fraction, []) :=
      takeDecimal_eq_iff.mpr ⟨wholeDigits, fractionDigits, point, rfl, hasPoint⟩
    have unsigned : ∀ c ∈ (whole ++ (point ++ fraction)).head?, c.isDigit = true ∨ c = '.' := by
      intro c first
      have member := List.mem_of_head? first
      simp only [List.mem_append] at member
      rcases member with inWhole | inPoint | inFraction
      · exact .inl (wholeDigits c inWhole)
      · rcases hasPoint with rfl | ⟨rfl, -⟩
        · exact .inr (List.mem_singleton.mp inPoint)
        · cases inPoint
      · exact .inl (fractionDigits c inFraction)
    rw [takeSign_append isSign unsigned, isNearest]
    dsimp only
    rw [decimal]
    exact if_pos ⟨someDigit, rfl⟩

/-- A numeral is read as the number nearest to what it denotes. -/
theorem IsNumeral.read_eq (numeral : IsNumeral cs negative whole fraction) :
    read cs = some (ofNumeral negative whole fraction) :=
  (read_eq_some_iff numeral.no_letter).mpr ⟨negative, whole, fraction, numeral, rfl⟩

end Binary64
end Number
end TailView
