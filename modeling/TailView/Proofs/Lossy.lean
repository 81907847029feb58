import Mathlib.Algebra.Ring.Nat
import Mathlib.Data.List.Infix
import TailView.Proofs.Utf8

/-!
# Decoding what is not valid

Any bytes have a text.  Where a character is written it is read; where none is, the longest part
with which one could begin becomes a replacement character, or one byte if no character begins with
it.  This determines the text, and the decoder finds it.  A byte of an ASCII character is part of no
other character, so cutting bytes there cuts their text in the same place.
-/

namespace TailView
namespace Text
namespace Utf8

variable {byte : UInt8} {part bytes rest first second : List UInt8} {c d : Char}
  {cs : List Char} {n missing low high value : Nat}

/-! ## The text of any bytes -/

/-- Some character is written with bytes that start like this. -/
def IsStart (bytes : List UInt8) : Prop := ∃ c, bytes <+: encodeChar c

/-- A part at the beginning of an input that is replaced as a whole. -/
structure Invalid (part rest : List UInt8) : Prop where
  /-- Something is replaced. -/
  nonempty : part ≠ []
  /-- No character stands at the beginning of the input. -/
  unreadable : ∀ c, ¬encodeChar c <+: part ++ rest
  /-- More than one byte is replaced only if a character could have begun with them. -/
  started : 1 < part.length → IsStart part
  /-- No character begins with more of the input. -/
  longest : ∀ byte ∈ rest.head?, ¬IsStart (part ++ [byte])

/-- A text is what some bytes read as. -/
inductive Lossy : List UInt8 → List Char → Prop
  /-- Nothing reads as nothing. -/
  | nil : Lossy [] []
  /-- A character is read. -/
  | char (c : Char) {rest : List UInt8} {cs : List Char} :
      Lossy rest cs → Lossy (encodeChar c ++ rest) (c :: cs)
  /-- What is no character is replaced. -/
  | invalid {part rest : List UInt8} {cs : List Char} :
      Invalid part rest → Lossy rest cs → Lossy (part ++ rest) (replacement :: cs)

theorem IsStart.of_append (start : IsStart (first ++ second)) : IsStart first := by
  obtain ⟨c, isPrefix⟩ := start
  exact ⟨c, (List.prefix_append first second).trans isPrefix⟩

/-- When no character begins with more of the input than a part of it, and none is written within
the part, then none stands at the beginning of the input. -/
theorem unreadable_of_longest
    (longest : ∀ byte ∈ rest.head?, ¬IsStart (part ++ [byte]))
    (within : ∀ c, ¬encodeChar c <+: part) :
    ∀ c, ¬encodeChar c <+: part ++ rest := by
  intro c isPrefix
  rcases List.prefix_or_prefix_of_prefix isPrefix (List.prefix_append part rest) with
    inside | ⟨later, written⟩
  · exact within c inside
  · rw [← written, List.prefix_append_right_inj] at isPrefix
    cases later with
    | nil =>
        rw [List.append_nil] at written
        exact within c (written ▸ List.prefix_refl part)
    | cons byte others =>
        obtain ⟨last, rfl⟩ := isPrefix
        exact longest byte rfl ⟨c, others, by rw [← written, ← List.append_cons]⟩

/-! ## The bytes of one character -/

/-- The last bytes of a character, which have six binary digits of its number each. -/
def tails (n : Nat) : Nat → List UInt8
  | 0 => []
  | count + 1 => (0x80 + n / 64 ^ count % 64).toUInt8 :: tails n count

theorem encodeChar_of_ascii (ascii : c.toNat < 0x80) : encodeChar c = [c.toNat.toUInt8] := by
  rw [encodeChar, if_pos ascii]

theorem encodeChar_pair (least : 0x80 ≤ c.toNat) (below : c.toNat < 0x800) :
    encodeChar c = (0xC0 + c.toNat / 64).toUInt8 :: tails c.toNat 1 := by
  rw [encodeChar, if_neg (Nat.not_lt.mpr least), if_pos below]
  rfl

theorem encodeChar_triple (least : 0x800 ≤ c.toNat) (below : c.toNat < 0x10000) :
    encodeChar c = (0xE0 + c.toNat / 4096).toUInt8 :: tails c.toNat 2 := by
  rw [encodeChar, if_neg (by omega), if_neg (by omega), if_pos below]
  rfl

theorem encodeChar_quadruple (least : 0x10000 ≤ c.toNat) :
    encodeChar c = (0xF0 + c.toNat / 262144).toUInt8 :: tails c.toNat 3 := by
  rw [encodeChar, if_neg (by omega), if_neg (by omega), if_neg (by omega)]
  rfl

theorem le_of_mem_tails {count : Nat} (member : byte ∈ tails n count) : 0x80 ≤ byte.toNat := by
  induction count with
  | zero => exact absurd member List.not_mem_nil
  | succ count inductionHypothesis =>
      rcases List.mem_cons.mp member with rfl | later
      · rw [toNat_tail]
        exact Nat.le_add_right _ _
      · exact inductionHypothesis later

/-- A character that is not ASCII has a first byte that is not, and last bytes. -/
theorem exists_lead (beyond : 0x80 ≤ c.toNat) :
    ∃ lead count, encodeChar c = lead :: tails c.toNat count ∧ 0x80 ≤ lead.toNat := by
  have small : c.toNat < 0x110000 := by
    have valid : c.toNat < 0xD800 ∨ 0xDFFF < c.toNat ∧ c.toNat < 0x110000 := c.valid
    omega
  by_cases two : c.toNat < 0x800
  · exact ⟨_, _, encodeChar_pair beyond two, by rw [toNat_toUInt8 (by omega)]; omega⟩
  · by_cases three : c.toNat < 0x10000
    · exact ⟨_, _, encodeChar_triple (by omega) three, by rw [toNat_toUInt8 (by omega)]; omega⟩
    · exact ⟨_, _, encodeChar_quadruple (by omega), by rw [toNat_toUInt8 (by omega)]; omega⟩

theorem encodeChar_ne_nil (c : Char) : encodeChar c ≠ [] := by
  by_cases ascii : c.toNat < 0x80
  · rw [encodeChar_of_ascii ascii]
    exact List.cons_ne_nil _ _
  · obtain ⟨lead, count, written, _⟩ := exists_lead (Nat.le_of_not_lt ascii)
    rw [written]
    exact List.cons_ne_nil _ _

theorem toNat_ofNat (valid : n.isValidChar) : (Char.ofNat n).toNat = n := by
  rw [Char.ofNat, dif_pos valid]
  rfl

theorem exists_toNat_eq (valid : n.isValidChar) : ∃ c : Char, c.toNat = n :=
  ⟨Char.ofNat n, toNat_ofNat valid⟩

/-- An ASCII character is written as its number. -/
theorem encodeChar_ofNat (ascii : byte.toNat < 0x80) :
    encodeChar (Char.ofNat byte.toNat) = [byte] := by
  have number : (Char.ofNat byte.toNat).toNat = byte.toNat := toNat_ofNat (.inl (by omega))
  rw [encodeChar_of_ascii (number.symm ▸ ascii), number]
  exact congrArg (fun byte => [byte]) UInt8.ofNat_toNat

/-- A byte of an ASCII character is part of no other character. -/
theorem eq_ofNat_of_mem_encodeChar (member : byte ∈ encodeChar c) (ascii : byte.toNat < 0x80) :
    c = Char.ofNat byte.toNat := by
  by_cases small : c.toNat < 0x80
  · rw [encodeChar_of_ascii small, List.mem_singleton] at member
    rw [member, toNat_toUInt8 (by omega), Char.ofNat_toNat]
  · obtain ⟨lead, count, written, beyond⟩ := exists_lead (Nat.le_of_not_lt small)
    rw [written] at member
    rcases List.mem_cons.mp member with rfl | later
    · exact absurd ascii (Nat.not_lt.mpr beyond)
    · exact absurd ascii (Nat.not_lt.mpr (le_of_mem_tails later))

/-- Different characters never stand in the same place. -/
theorem encodeChar_append_inj (same : encodeChar c ++ first = encodeChar d ++ second) :
    c = d ∧ first = second := by
  have sameText := congrArg (decodeFrom .idle) same
  rw [decodeFrom_encodeChar, decodeFrom_encodeChar] at sameText
  obtain rfl := (List.cons.inj sameText).1
  exact ⟨rfl, List.append_cancel_left same⟩

/-- No character begins with another one. -/
theorem eq_nil_of_encodeChar_append (same : encodeChar c ++ rest = encodeChar d) : rest = [] := by
  rw [← List.append_nil (encodeChar d)] at same
  exact (encodeChar_append_inj same).2

/-! ## Inside a character -/

/-- A number has the digits read so far, and the next six are within the bounds. -/
structure Fits (missing low high value n : Nat) : Prop where
  /-- The digits read so far are the first ones. -/
  read : n / 64 ^ (missing - 1) / 64 = value
  /-- The next digits are not below the bounds. -/
  low_le : low ≤ 0x80 + n / 64 ^ (missing - 1) % 64
  /-- The next digits are not above the bounds. -/
  le_high : 0x80 + n / 64 ^ (missing - 1) % 64 ≤ high

/-- The decoder has read some bytes and is inside a character. -/
structure Held (part : List UInt8) (missing low high value : Nat) : Prop where
  /-- The bytes lead the decoder there. -/
  reads : ∀ rest,
    decodeFrom .idle (part ++ rest) = decodeFrom (.inside missing low high value) rest
  /-- Some bytes are missing. -/
  missing_pos : 0 < missing
  /-- The next byte has six digits of a number. -/
  bounds : 0x80 ≤ low ∧ low ≤ high ∧ high ≤ 0xBF
  /-- Every number with the digits read so far is a character that begins with the bytes. -/
  completes : ∀ n, Fits missing low high value n →
    ∃ c : Char, c.toNat = n ∧ encodeChar c = part ++ tails n missing

section Lead

variable {low high : Nat} (bounds : 0x80 ≤ low ∧ low ≤ high ∧ high ≤ 0xBF)
include bounds

/-- The first of two bytes. -/
theorem held_pair
    (range : 0xC2 ≤ byte.toNat ∧ byte.toNat ≤ 0xDF)
    (lead : stateAfterLead byte.toNat = some (.inside 1 low high (byte.toNat - 0xC0))) :
    Held [byte] 1 low high (byte.toNat - 0xC0) where
  reads := fun rest => decodeFrom_lead rest (by omega) lead
  missing_pos := Nat.one_pos
  bounds := bounds
  completes := by
    intro n fits
    have read : n / 64 = byte.toNat - 0xC0 := by simpa using fits.read
    have valid : n.isValidChar := .inl (by omega)
    have isLead : (0xC0 + n / 64).toUInt8 = byte := by
      rw [read, Nat.add_sub_cancel' (by omega)]
      exact UInt8.ofNat_toNat
    obtain ⟨c, rfl⟩ := exists_toNat_eq valid
    refine ⟨c, rfl, ?_⟩
    rw [encodeChar_pair (by omega) (by omega), isLead, List.singleton_append]

/-- The first of three bytes.  The bounds exclude longer forms of small numbers, and surrogates. -/
theorem held_triple
    (range : 0xE0 ≤ byte.toNat ∧ byte.toNat ≤ 0xEF)
    (short : byte.toNat = 0xE0 → 0xA0 ≤ low)
    (scalar : byte.toNat = 0xED → high ≤ 0x9F)
    (lead : stateAfterLead byte.toNat = some (.inside 2 low high (byte.toNat - 0xE0))) :
    Held [byte] 2 low high (byte.toNat - 0xE0) where
  reads := fun rest => decodeFrom_lead rest (by omega) lead
  missing_pos := Nat.two_pos
  bounds := bounds
  completes := by
    intro n fits
    have read : n / 64 / 64 = byte.toNat - 0xE0 := by simpa using fits.read
    have low_le : low ≤ 0x80 + n / 64 % 64 := by simpa using fits.low_le
    have le_high : 0x80 + n / 64 % 64 ≤ high := by simpa using fits.le_high
    have valid : n.isValidChar := by
      unfold Nat.isValidChar
      omega
    have isLead : (0xE0 + n / 4096).toUInt8 = byte := by
      rw [show 0xE0 + n / 4096 = byte.toNat by omega]
      exact UInt8.ofNat_toNat
    obtain ⟨c, rfl⟩ := exists_toNat_eq valid
    refine ⟨c, rfl, ?_⟩
    rw [encodeChar_triple (by omega) (by omega), isLead, List.singleton_append]

/-- The first of four bytes.  The bounds exclude longer forms of small numbers, and numbers that are
too large. -/
theorem held_quadruple
    (range : 0xF0 ≤ byte.toNat ∧ byte.toNat ≤ 0xF4)
    (short : byte.toNat = 0xF0 → 0x90 ≤ low)
    (scalar : byte.toNat = 0xF4 → high ≤ 0x8F)
    (lead : stateAfterLead byte.toNat = some (.inside 3 low high (byte.toNat - 0xF0))) :
    Held [byte] 3 low high (byte.toNat - 0xF0) where
  reads := fun rest => decodeFrom_lead rest (by omega) lead
  missing_pos := Nat.succ_pos 2
  bounds := bounds
  completes := by
    intro n fits
    have read : n / 4096 / 64 = byte.toNat - 0xF0 := by simpa using fits.read
    have low_le : low ≤ 0x80 + n / 4096 % 64 := by simpa using fits.low_le
    have le_high : 0x80 + n / 4096 % 64 ≤ high := by simpa using fits.le_high
    have valid : n.isValidChar := .inr (by omega)
    have isLead : (0xF0 + n / 262144).toUInt8 = byte := by
      rw [show 0xF0 + n / 262144 = byte.toNat by omega]
      exact UInt8.ofNat_toNat
    obtain ⟨c, rfl⟩ := exists_toNat_eq valid
    refine ⟨c, rfl, ?_⟩
    rw [encodeChar_quadruple (by omega), isLead, List.singleton_append]

end Lead

/-- A byte that a character can start with leads into it. -/
theorem held_of_lead {state : State} (lead : stateAfterLead byte.toNat = some state) :
    ∃ missing low high value,
      state = .inside missing low high value ∧ Held [byte] missing low high value := by
  have same := lead
  unfold stateAfterLead at lead
  simp only [Bool.and_eq_true, decide_eq_true_eq] at lead
  split_ifs at lead
  all_goals
    obtain rfl := Option.some.inj lead
    refine ⟨_, _, _, _, rfl, ?_⟩
  · exact held_pair (by omega) (by omega) same
  · exact held_triple (by omega) (by omega) (by omega) (by omega) (by simpa using same)
  · exact held_triple (by omega) (by omega) (by omega) (by omega) same
  · exact held_triple (by omega) (by omega) (by omega) (by omega) same
  · exact held_quadruple (by omega) (by omega) (by omega) (by omega) same
  · exact held_quadruple (by omega) (by omega) (by omega) (by omega) same
  · exact held_quadruple (by omega) (by omega) (by omega) (by omega) same

/-- Outside the bounds the character is given up, and the byte is read anew. -/
theorem decodeFrom_outside (outside : ¬(low ≤ byte.toNat ∧ byte.toNat ≤ high)) :
    decodeFrom (.inside missing low high value) (byte :: rest) =
      replacement :: decodeFrom .idle (byte :: rest) := by
  have isOutside : ¬(low ≤ byte.toNat && byte.toNat ≤ high) = true := by
    rw [Bool.and_eq_true, decide_eq_true_eq, decide_eq_true_eq]
    exact outside
  rw [decodeFrom, step, if_neg isOutside, decodeFrom, step]
  rfl

theorem decodeFrom_invalid
    (beyond : 0x80 ≤ byte.toNat)
    (noLead : stateAfterLead byte.toNat = none) :
    decodeFrom .idle (byte :: rest) = replacement :: decodeFrom .idle rest := by
  have large : ¬byte < 0x80 := by
    rw [UInt8.lt_iff_toNat_lt]
    exact Nat.not_lt.mpr beyond
  rw [decodeFrom, step, start, if_neg large, noLead]
  rfl

/-- After a first byte the decoder has a character or is inside one. -/
theorem start_ne (byte : UInt8) : start byte ≠ ([], .idle) := by
  unfold start
  split
  · nofun
  · split
    · next state lead =>
        obtain ⟨_, _, _, _, rfl, _⟩ := held_of_lead lead
        nofun
    · nofun

/-- After any byte the decoder has a character or is inside one. -/
theorem step_ne (state : State) (byte : UInt8) : step state byte ≠ ([], .idle) := by
  unfold step
  split
  · exact start_ne byte
  · split
    · dsimp only
      split <;> nofun
    · nofun

/-- Only nothing reads as nothing. -/
theorem eq_nil_of_decodeFrom_eq_nil {state : State} (nothing : decodeFrom state bytes = []) :
    state = .idle ∧ bytes = [] := by
  induction bytes generalizing state with
  | nil =>
      cases state with
      | idle => exact ⟨rfl, rfl⟩
      | inside => cases nothing
  | cons byte rest inductionHypothesis =>
      rw [decodeFrom, List.append_eq_nil_iff] at nothing
      exact absurd (Prod.ext nothing.1 (inductionHypothesis nothing.2).1) (step_ne state byte)

/-- No character begins with a byte that leads nowhere. -/
theorem not_isStart_of_lead_eq_none
    (beyond : 0x80 ≤ byte.toNat)
    (noLead : stateAfterLead byte.toNat = none) :
    ¬IsStart [byte] := by
  rintro ⟨c, later, written⟩
  have decoded : decodeFrom .idle (encodeChar c ++ []) = [c] := decodeFrom_encodeChar [] c
  rw [List.append_nil, ← written, List.singleton_append, decodeFrom_invalid beyond noLead]
    at decoded
  obtain ⟨rfl, nothing⟩ := List.cons.inj decoded
  obtain rfl := (eq_nil_of_decodeFrom_eq_nil nothing).2
  have three : (encodeChar replacement).length = 3 := by decide
  rw [← written] at three
  cases three

/-- A byte that leads nowhere is replaced. -/
theorem invalid_of_lead_eq_none
    (beyond : 0x80 ≤ byte.toNat)
    (noLead : stateAfterLead byte.toNat = none) :
    Invalid [byte] rest := by
  have noStart := not_isStart_of_lead_eq_none beyond noLead
  have longest : ∀ next ∈ rest.head?, ¬IsStart ([byte] ++ [next]) :=
    fun next _ start => noStart start.of_append
  refine ⟨List.cons_ne_nil _ _, unreadable_of_longest longest ?_, ?_, longest⟩
  · rintro c ⟨later, written⟩
    rcases List.append_eq_singleton_iff.mp written with ⟨nothing, -⟩ | ⟨whole, -⟩
    · exact encodeChar_ne_nil c nothing
    · exact noStart ⟨c, [], whole.symm⟩
  · intro several
    exact absurd several (Nat.lt_irrefl 1)

namespace Held

/-- Any byte within the bounds goes on towards a character. -/
theorem exists_char
    (held : Held part missing low high value)
    (within : low ≤ byte.toNat ∧ byte.toNat ≤ high) :
    ∃ c : Char, c.toNat = (value * 64 + (byte.toNat - 0x80)) * 64 ^ (missing - 1) ∧
      encodeChar c = part ++ byte :: tails c.toNat (missing - 1) := by
  obtain ⟨missing_pos, bounds⟩ := And.intro held.missing_pos held.bounds
  have digits : (value * 64 + (byte.toNat - 0x80)) * 64 ^ (missing - 1) / 64 ^ (missing - 1) =
      value * 64 + (byte.toNat - 0x80) :=
    Nat.mul_div_cancel _ (Nat.pow_pos (by decide))
  have last : 0x80 + (value * 64 + (byte.toNat - 0x80)) % 64 = byte.toNat := by omega
  have fits : Fits missing low high value
      ((value * 64 + (byte.toNat - 0x80)) * 64 ^ (missing - 1)) := by
    constructor
    · rw [digits]
      omega
    · rw [digits, last]
      exact within.1
    · rw [digits, last]
      exact within.2
  obtain ⟨c, number, written⟩ := held.completes _ fits
  refine ⟨c, number, ?_⟩
  rw [written, number]
  apply congrArg (part ++ ·)
  obtain ⟨later, rfl⟩ := Nat.exists_eq_add_one_of_ne_zero (Nat.ne_of_gt missing_pos)
  rw [Nat.add_sub_cancel] at digits ⊢
  rw [tails, digits, last]
  exact congrArg (· :: _) UInt8.ofNat_toNat

/-- The bytes read so far and another one within the bounds begin a character. -/
theorem isStart_append
    (held : Held part missing low high value)
    (within : low ≤ byte.toNat ∧ byte.toNat ≤ high) :
    IsStart (part ++ [byte]) := by
  obtain ⟨c, -, written⟩ := held.exists_char within
  rw [List.append_cons] at written
  exact ⟨c, _, written.symm⟩

/-- The lowest byte within the bounds goes on. -/
theorem isStart_low (held : Held part missing low high value) :
    IsStart (part ++ [low.toUInt8]) := by
  have bounds := held.bounds
  apply held.isStart_append
  rw [toNat_toUInt8 (by omega)]
  omega

/-- No character begins with the bytes read so far and another one outside the bounds. -/
theorem not_isStart_append
    (held : Held part missing low high value)
    (outside : ¬(low ≤ byte.toNat ∧ byte.toNat ≤ high)) :
    ¬IsStart (part ++ [byte]) := by
  rintro ⟨c, later, written⟩
  have decoded : decodeFrom .idle (encodeChar c ++ []) = [c] := decodeFrom_encodeChar [] c
  rw [List.append_nil, ← written, ← List.append_cons, held.reads, decodeFrom_outside outside]
    at decoded
  exact absurd (eq_nil_of_decodeFrom_eq_nil (List.cons.inj decoded).2).2 (List.cons_ne_nil _ _)

/-- The last byte completes a character. -/
theorem encodeChar_ofNat
    (held : Held part 1 low high value)
    (within : low ≤ byte.toNat ∧ byte.toNat ≤ high) :
    encodeChar (Char.ofNat (value * 64 + (byte.toNat - 0x80))) = part ++ [byte] := by
  obtain ⟨c, number, written⟩ := held.exists_char within
  rw [Nat.sub_self, Nat.pow_zero, Nat.mul_one] at number
  rw [← number, Char.ofNat_toNat]
  exact written

/-- Any other byte leads further into the character. -/
theorem next
    (held : Held part missing low high value)
    (notLast : ¬missing ≤ 1)
    (within : low ≤ byte.toNat ∧ byte.toNat ≤ high) :
    Held (part ++ [byte]) (missing - 1) 0x80 0xBF (value * 64 + (byte.toNat - 0x80)) where
  reads := by
    intro rest
    rw [← List.append_cons, held.reads, decodeFrom_inside rest within, if_neg notLast]
  missing_pos := by omega
  bounds := by decide
  completes := by
    intro n fits
    obtain ⟨later, rfl⟩ : ∃ later, missing = later + 2 := ⟨missing - 2, by omega⟩
    have bounds := held.bounds
    have read : n / 64 ^ later / 64 = value * 64 + (byte.toNat - 0x80) := fits.read
    have digits : n / 64 ^ (later + 1) = value * 64 + (byte.toNat - 0x80) := by
      rw [Nat.pow_succ, ← Nat.div_div_eq_div_mul, read]
    have last : 0x80 + n / 64 ^ (later + 1) % 64 = byte.toNat := by omega
    have fitsBefore : Fits (later + 2) low high value n := by
      refine ⟨?_, ?_, ?_⟩
      · change n / 64 ^ (later + 1) / 64 = value
        omega
      · exact last.symm ▸ within.1
      · exact last.symm ▸ within.2
    obtain ⟨c, rfl, written⟩ := held.completes n fitsBefore
    refine ⟨c, rfl, ?_⟩
    rw [written, ← List.append_cons, tails, last]
    exact congrArg (part ++ · :: _) UInt8.ofNat_toNat

/-- When the input ends inside a character or goes on outside the bounds, the bytes read so far are
replaced. -/
theorem invalid
    (held : Held part missing low high value)
    (outside : ∀ byte ∈ rest.head?, ¬(low ≤ byte.toNat ∧ byte.toNat ≤ high)) :
    Invalid part rest where
  nonempty := by
    rintro rfl
    cases held.reads []
  unreadable := by
    have goesOn : ∀ byte ∈ rest.head?, ¬IsStart (part ++ [byte]) :=
      fun byte next => held.not_isStart_append (outside byte next)
    refine unreadable_of_longest goesOn ?_
    rintro c ⟨between, rfl⟩
    obtain ⟨d, later, written⟩ := held.isStart_low
    rw [List.append_assoc, List.append_assoc] at written
    have nothing := eq_nil_of_encodeChar_append written
    simp at nothing
  started := fun _ => held.isStart_low.of_append
  longest := fun byte next => held.not_isStart_append (outside byte next)

end Held

/-- The decoder reads any bytes as their text, from a place between characters and from inside
one. -/
theorem lossy_decodeFrom (bytes : List UInt8) :
    Lossy bytes (decodeFrom .idle bytes) ∧
      ∀ part missing low high value, Held part missing low high value →
        Lossy (part ++ bytes) (decodeFrom (.inside missing low high value) bytes) := by
  induction bytes with
  | nil =>
      refine ⟨.nil, ?_⟩
      intro part missing low high value held
      exact .invalid (held.invalid nofun) .nil
  | cons byte rest inductionHypothesis =>
      obtain ⟨fromIdle, fromInside⟩ := inductionHypothesis
      have idle : Lossy (byte :: rest) (decodeFrom .idle (byte :: rest)) := by
        by_cases ascii : byte.toNat < 0x80
        · rw [decodeFrom_ascii rest ascii, ← List.singleton_append, ← encodeChar_ofNat ascii]
          exact .char _ fromIdle
        · have beyond := Nat.le_of_not_lt ascii
          cases lead : stateAfterLead byte.toNat with
          | none =>
              rw [decodeFrom_invalid beyond lead]
              exact .invalid (invalid_of_lead_eq_none beyond lead) fromIdle
          | some state =>
              obtain ⟨missing, low, high, value, rfl, held⟩ := held_of_lead lead
              rw [decodeFrom_lead rest beyond lead]
              exact fromInside _ _ _ _ _ held
      refine ⟨idle, ?_⟩
      intro part missing low high value held
      by_cases within : low ≤ byte.toNat ∧ byte.toNat ≤ high
      · rw [decodeFrom_inside rest within, List.append_cons]
        split
        · next last =>
            obtain rfl : missing = 1 := Nat.le_antisymm last held.missing_pos
            rw [← held.encodeChar_ofNat within]
            exact .char _ fromIdle
        · next notLast => exact fromInside _ _ _ _ _ (held.next notLast within)
      · rw [decodeFrom_outside within]
        apply Lossy.invalid (held.invalid _) idle
        rintro first isFirst
        rwa [← Option.some.inj isFirst]

theorem lossy_decode (bytes : List UInt8) : Lossy bytes (decode bytes) :=
  (lossy_decodeFrom bytes).1

/-! ## There is no other text -/

/-- Of two parts that are replaced in the same place neither is longer. -/
theorem Invalid.eq_of_prefix
    {other more : List UInt8}
    (invalid : Invalid part rest)
    (otherInvalid : Invalid other more)
    (same : part ++ rest = other ++ more)
    (isPrefix : part <+: other) :
    part = other := by
  obtain ⟨later, rfl⟩ := isPrefix
  rw [List.append_assoc, List.append_cancel_left_eq] at same
  cases later with
  | nil => exact (List.append_nil part).symm
  | cons byte others =>
      have several : 1 < (part ++ byte :: others).length := by
        have nonempty := List.length_pos_of_ne_nil invalid.nonempty
        rw [List.length_append, List.length_cons]
        omega
      have start := otherInvalid.started several
      rw [List.append_cons] at start
      exact absurd start.of_append (invalid.longest byte (by rw [same]; rfl))

theorem Invalid.append_inj
    {other more : List UInt8}
    (invalid : Invalid part rest)
    (otherInvalid : Invalid other more)
    (same : part ++ rest = other ++ more) :
    part = other ∧ rest = more := by
  have samePart : part = other := by
    rcases List.prefix_or_prefix_of_prefix (List.prefix_append part rest)
      (same ▸ List.prefix_append other more) with shorter | longer
    · exact invalid.eq_of_prefix otherInvalid same shorter
    · exact (otherInvalid.eq_of_prefix invalid same.symm longer).symm
  subst samePart
  exact ⟨rfl, List.append_cancel_left same⟩

/-- Bytes have one text. -/
theorem Lossy.unique
    {ds : List Char}
    (reads : Lossy bytes cs)
    (otherReads : Lossy bytes ds) :
    cs = ds := by
  induction reads generalizing ds with
  | nil =>
      generalize same : ([] : List UInt8) = bytes at otherReads
      cases otherReads with
      | nil => rfl
      | char d _ => exact absurd (List.append_eq_nil_iff.mp same.symm).1 (encodeChar_ne_nil d)
      | invalid invalid _ => exact absurd (List.append_eq_nil_iff.mp same.symm).1 invalid.nonempty
  | @char c rest _ _ inductionHypothesis =>
      generalize same : encodeChar c ++ rest = bytes at otherReads
      cases otherReads with
      | nil => exact absurd (List.append_eq_nil_iff.mp same).1 (encodeChar_ne_nil c)
      | char d others =>
          obtain ⟨rfl, rfl⟩ := encodeChar_append_inj same
          rw [inductionHypothesis others]
      | invalid invalid _ => exact absurd ⟨rest, same⟩ (invalid.unreadable c)
  | @invalid part rest _ invalid _ inductionHypothesis =>
      generalize same : part ++ rest = bytes at otherReads
      cases otherReads with
      | nil => exact absurd (List.append_eq_nil_iff.mp same).1 invalid.nonempty
      | char d _ => exact absurd ⟨_, same.symm⟩ (invalid.unreadable d)
      | invalid otherInvalid others =>
          obtain ⟨rfl, rfl⟩ := invalid.append_inj otherInvalid same
          rw [inductionHypothesis others]

/-- The text of any bytes is what the decoder makes of them. -/
theorem lossy_iff : Lossy bytes cs ↔ cs = decode bytes := by
  constructor
  · exact fun reads => reads.unique (lossy_decode bytes)
  · rintro rfl
    exact lossy_decode bytes

/-! ## ASCII characters divide bytes and text in the same places -/

section Ascii

variable (ascii : byte.toNat < 0x80)
include ascii

/-- No character begins with other bytes and an ASCII character. -/
theorem not_isStart_append_ascii (nonempty : part ≠ []) : ¬IsStart (part ++ [byte]) := by
  rintro ⟨c, later, written⟩
  have member : byte ∈ encodeChar c := by
    rw [← written]
    simp
  rw [eq_ofNat_of_mem_encodeChar member ascii, encodeChar_ofNat ascii] at written
  have sameLength := congrArg List.length written
  have length_pos := List.length_pos_of_ne_nil nonempty
  simp only [List.length_append, List.length_singleton] at sameLength
  omega

/-- What is replaced at the end of an input is replaced when an ASCII character follows. -/
theorem Invalid.append_ascii (invalid : Invalid part rest) (after : List UInt8) :
    Invalid part (rest ++ byte :: after) := by
  have longest : ∀ next ∈ (rest ++ byte :: after).head?, ¬IsStart (part ++ [next]) := by
    cases rest with
    | nil =>
        rintro next isNext
        rw [← Option.some.inj isNext]
        exact not_isStart_append_ascii ascii invalid.nonempty
    | cons first others => exact invalid.longest
  refine ⟨invalid.nonempty, unreadable_of_longest longest ?_, invalid.started, longest⟩
  intro c isPrefix
  exact invalid.unreadable c (isPrefix.trans (List.prefix_append part rest))

theorem Lossy.append_ascii
    {ds : List Char}
    (before : Lossy bytes cs)
    (after : Lossy rest ds) :
    Lossy (bytes ++ byte :: rest) (cs ++ Char.ofNat byte.toNat :: ds) := by
  induction before with
  | nil =>
      rw [List.nil_append, List.nil_append, ← List.singleton_append, ← encodeChar_ofNat ascii]
      exact .char _ after
  | char c _ inductionHypothesis =>
      rw [List.append_assoc, List.cons_append]
      exact .char c inductionHypothesis
  | invalid invalid _ inductionHypothesis =>
      rw [List.append_assoc, List.cons_append]
      exact .invalid (invalid.append_ascii ascii rest) inductionHypothesis

/-- The text around an ASCII character is the text of the bytes around it. -/
theorem decode_append_ascii (before after : List UInt8) :
    decode (before ++ byte :: after) =
      decode before ++ Char.ofNat byte.toNat :: decode after :=
  (lossy_iff.mp ((lossy_decode before).append_ascii ascii (lossy_decode after))).symm

end Ascii

/-- An ASCII character of the text is one of the bytes. -/
theorem Lossy.mem_of_ascii (reads : Lossy bytes cs) (member : c ∈ cs) (ascii : c.toNat < 0x80) :
    c.toNat.toUInt8 ∈ bytes := by
  induction reads with
  | nil => exact absurd member List.not_mem_nil
  | char d _ inductionHypothesis =>
      rw [List.mem_append]
      rcases List.mem_cons.mp member with rfl | later
      · left
        rw [encodeChar_of_ascii ascii]
        exact List.mem_singleton_self _
      · exact .inr (inductionHypothesis later)
  | invalid _ _ inductionHypothesis =>
      rw [List.mem_append]
      rcases List.mem_cons.mp member with rfl | later
      · exact absurd ascii (by decide)
      · exact .inr (inductionHypothesis later)

/-- When the text ends with an ASCII character, so do the bytes. -/
theorem Lossy.getLast?_eq
    (reads : Lossy bytes cs)
    (last : cs.getLast? = some c)
    (ascii : c.toNat < 0x80) :
    bytes.getLast? = some c.toNat.toUInt8 := by
  induction reads with
  | nil => cases last
  | @char d rest others restReads inductionHypothesis =>
      cases others with
      | nil =>
          cases restReads
          obtain rfl : d = c := Option.some.inj last
          rw [encodeChar_of_ascii ascii]
          rfl
      | cons next more =>
          rw [List.getLast?_cons_cons] at last
          rw [List.getLast?_append, inductionHypothesis last]
          rfl
  | @invalid part rest others invalid restReads inductionHypothesis =>
      cases others with
      | nil =>
          obtain rfl : replacement = c := Option.some.inj last
          exact absurd ascii (by decide)
      | cons next more =>
          rw [List.getLast?_cons_cons] at last
          rw [List.getLast?_append, inductionHypothesis last]
          rfl

end Utf8
end Text
end TailView
