import Mathlib.Tactic.SplitIfs
import TailView.Text.Utf8

/-!
# Decoding what was encoded

The bytes of a character take the decoder from a place between characters through its inner states
to that character and the next such place.  So the bytes of a text decode to that text, whatever
follows them.
-/

namespace TailView
namespace Text
namespace Utf8

/-! ## Single bytes -/

section Bytes

variable {byte : UInt8} {missing low high value : Nat} (rest : List UInt8)

theorem decodeFrom_ascii (ascii : byte.toNat < 0x80) :
    decodeFrom .idle (byte :: rest) = Char.ofNat byte.toNat :: decodeFrom .idle rest := by
  have small : byte < 0x80 := UInt8.lt_iff_toNat_lt.mpr ascii
  rw [decodeFrom, step, start, if_pos small]
  rfl

theorem decodeFrom_lead
    {state : State}
    (beyond : 0x80 ≤ byte.toNat)
    (lead : stateAfterLead byte.toNat = some state) :
    decodeFrom .idle (byte :: rest) = decodeFrom state rest := by
  have large : ¬byte < 0x80 := by
    rw [UInt8.lt_iff_toNat_lt]
    exact Nat.not_lt.mpr beyond
  rw [decodeFrom, step, start, if_neg large, lead]
  rfl

/-- A byte within the bounds adds six digits, and the last one completes the character. -/
theorem decodeFrom_inside
    (within : low ≤ byte.toNat ∧ byte.toNat ≤ high) :
    decodeFrom (.inside missing low high value) (byte :: rest) =
      if missing ≤ 1 then Char.ofNat (value * 64 + (byte.toNat - 0x80)) :: decodeFrom .idle rest
      else
        decodeFrom (.inside (missing - 1) 0x80 0xBF (value * 64 + (byte.toNat - 0x80))) rest := by
  have isWithin : (low ≤ byte.toNat && byte.toNat ≤ high) = true := by
    rw [Bool.and_eq_true, decide_eq_true_eq, decide_eq_true_eq]
    exact within
  rw [decodeFrom, step, if_pos isWithin]
  dsimp only
  split <;> rfl

end Bytes

/-! ## Whole characters -/

section Characters

variable {n : Nat} (rest : List UInt8)

theorem toNat_toUInt8 {n : Nat} (small : n < 256) : n.toUInt8.toNat = n := by
  rw [Nat.toUInt8, UInt8.toNat_ofNat']
  exact Nat.mod_eq_of_lt small

/-- A byte of a character other than the first has six binary digits of it. -/
theorem toNat_tail (n : Nat) : (0x80 + n % 64).toUInt8.toNat = 0x80 + n % 64 :=
  toNat_toUInt8 (by omega)

/-- Six binary digits behind the others of a number are the number again. -/
theorem append_digits (n : Nat) : n / 64 * 64 + (0x80 + n % 64 - 0x80) = n := by
  omega

theorem decodeFrom_pair (least : 0x80 ≤ n) (below : n < 0x800) :
    decodeFrom .idle ((0xC0 + n / 64).toUInt8 :: (0x80 + n % 64).toUInt8 :: rest) =
      Char.ofNat n :: decodeFrom .idle rest := by
  have first : (0xC0 + n / 64).toUInt8.toNat = 0xC0 + n / 64 := toNat_toUInt8 (by omega)
  have lead : stateAfterLead (0xC0 + n / 64) = some (.inside 1 0x80 0xBF (n / 64)) := by
    rw [stateAfterLead, if_pos (by simp; omega), Nat.add_sub_cancel_left]
  rw [decodeFrom_lead _ (by omega) (first ▸ lead), decodeFrom_inside _ (by rw [toNat_tail]; omega),
    if_pos (Nat.le_refl 1), toNat_tail, append_digits]

theorem decodeFrom_triple
    (least : 0x800 ≤ n)
    (below : n < 0x10000)
    (scalar : n < 0xD800 ∨ 0xDFFF < n) :
    decodeFrom .idle ((0xE0 + n / 64 / 64).toUInt8 :: (0x80 + n / 64 % 64).toUInt8 ::
      (0x80 + n % 64).toUInt8 :: rest) = Char.ofNat n :: decodeFrom .idle rest := by
  have first : (0xE0 + n / 64 / 64).toUInt8.toNat = 0xE0 + n / 64 / 64 := toNat_toUInt8 (by omega)
  -- the bounds on the second byte depend on the first
  obtain ⟨low, high, lead, within⟩ : ∃ low high,
      stateAfterLead (0xE0 + n / 64 / 64) = some (.inside 2 low high (n / 64 / 64)) ∧
        low ≤ 0x80 + n / 64 % 64 ∧ 0x80 + n / 64 % 64 ≤ high := by
    simp only [stateAfterLead, Nat.add_sub_cancel_left, Bool.and_eq_true, decide_eq_true_eq]
    by_cases zero : n / 64 / 64 = 0
    · exact ⟨0xA0, 0xBF, by rw [if_neg (by omega), if_pos (by omega)], by omega, by omega⟩
    · by_cases before : n / 64 / 64 = 13
      · refine ⟨0x80, 0x9F, ?_, by omega, by omega⟩
        rw [if_neg (by omega), if_neg (by omega), if_pos (by omega)]
      · refine ⟨0x80, 0xBF, ?_, by omega, by omega⟩
        rw [if_neg (by omega), if_neg (by omega), if_neg (by omega), if_pos (by omega)]
  rw [decodeFrom_lead _ (by omega) (first ▸ lead),
    decodeFrom_inside _ (by rw [toNat_tail]; exact within), if_neg (by decide), toNat_tail,
    append_digits, decodeFrom_inside _ (by rw [toNat_tail]; omega), if_pos (Nat.le_refl 1),
    toNat_tail, append_digits]

theorem decodeFrom_quadruple (least : 0x10000 ≤ n) (below : n < 0x110000) :
    decodeFrom .idle ((0xF0 + n / 64 / 64 / 64).toUInt8 :: (0x80 + n / 64 / 64 % 64).toUInt8 ::
      (0x80 + n / 64 % 64).toUInt8 :: (0x80 + n % 64).toUInt8 :: rest) =
        Char.ofNat n :: decodeFrom .idle rest := by
  have first : (0xF0 + n / 64 / 64 / 64).toUInt8.toNat = 0xF0 + n / 64 / 64 / 64 :=
    toNat_toUInt8 (by omega)
  obtain ⟨low, high, lead, within⟩ : ∃ low high,
      stateAfterLead (0xF0 + n / 64 / 64 / 64) = some (.inside 3 low high (n / 64 / 64 / 64)) ∧
        low ≤ 0x80 + n / 64 / 64 % 64 ∧ 0x80 + n / 64 / 64 % 64 ≤ high := by
    simp only [stateAfterLead, Nat.add_sub_cancel_left, Bool.and_eq_true, decide_eq_true_eq]
    rw [if_neg (by omega), if_neg (by omega), if_neg (by omega), if_neg (by omega)]
    by_cases zero : n / 64 / 64 / 64 = 0
    · exact ⟨0x90, 0xBF, by rw [if_pos (by omega)], by omega, by omega⟩
    · by_cases last : n / 64 / 64 / 64 = 4
      · refine ⟨0x80, 0x8F, ?_, by omega, by omega⟩
        rw [if_neg (by omega), if_neg (by omega), if_pos (by omega)]
      · refine ⟨0x80, 0xBF, ?_, by omega, by omega⟩
        rw [if_neg (by omega), if_pos (by omega)]
  rw [decodeFrom_lead _ (by omega) (first ▸ lead),
    decodeFrom_inside _ (by rw [toNat_tail]; exact within), if_neg (by decide), toNat_tail,
    append_digits, decodeFrom_inside _ (by rw [toNat_tail]; omega), if_neg (by decide), toNat_tail,
    append_digits, decodeFrom_inside _ (by rw [toNat_tail]; omega), if_pos (Nat.le_refl 1),
    toNat_tail, append_digits]

/-- The bytes of a character decode to it, whatever follows them. -/
theorem decodeFrom_encodeChar (c : Char) :
    decodeFrom .idle (encodeChar c ++ rest) = c :: decodeFrom .idle rest := by
  have scalar : c.toNat < 0xD800 ∨ 0xDFFF < c.toNat ∧ c.toNat < 0x110000 := c.valid
  have same : Char.ofNat c.toNat = c := Char.ofNat_toNat c
  rw [encodeChar]
  generalize c.toNat = n at scalar same
  have first : n / 4096 = n / 64 / 64 := by omega
  have top : n / 262144 = n / 64 / 64 / 64 := by omega
  have none : n / Nat.pow 2 0 = n := Nat.div_one n
  have six : n / Nat.pow 2 6 = n / 64 := rfl
  have twelve : n / Nat.pow 2 12 = n / 64 / 64 := first
  simp only [none, six, twelve, top]
  split_ifs with ascii two three
  · rw [List.singleton_append, decodeFrom_ascii _ (by rw [toNat_toUInt8 (by omega)]; exact ascii),
      toNat_toUInt8 (by omega), same]
  · rw [← same]
    exact decodeFrom_pair rest (by omega) two
  · rw [← same]
    exact decodeFrom_triple rest (by omega) three (by omega)
  · rw [← same]
    exact decodeFrom_quadruple rest (by omega) (by omega)

end Characters

/-! ## Texts -/

/-- The bytes of a text decode to it, whatever follows them. -/
theorem decodeFrom_encode (cs : List Char) (rest : List UInt8) :
    decodeFrom .idle (encode cs ++ rest) = cs ++ decodeFrom .idle rest := by
  induction cs with
  | nil => rfl
  | cons c others inductionHypothesis =>
      have bytes : encode (c :: others) = encodeChar c ++ encode others := rfl
      rw [bytes, List.append_assoc, decodeFrom_encodeChar, inductionHypothesis, List.cons_append]

theorem decode_encode (cs : List Char) : decode (encode cs) = cs := by
  have decoded := decodeFrom_encode cs []
  rwa [List.append_nil, decodeFrom, finish, List.append_nil] at decoded

/-- What was encoded is valid, and decodes to the same text. -/
theorem decodeString?_encodeString (text : String) :
    decodeString? (encodeString text) = some text := by
  rw [decodeString?, encodeString, decode_encode, if_pos rfl, String.ofList_toList]

end Utf8
end Text
end TailView
