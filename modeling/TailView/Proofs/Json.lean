import TailView.Proofs.Number.Decimal
import TailView.Proofs.Reading
import TailView.Text.Json
import TailView.Text.JsonReader

/-!
# Objects are read back

An object is written on one line, and reading that line gives its fields back, whatever characters
their texts hold.  Each reader takes exactly what was written for its part and stops there, so the
parts can be put together; the only part that could go on is a number, and no digit stands behind
one.
-/

namespace TailView
namespace Text

namespace Reader

variable {α β : Type} {reader : Reader α} {kind : Char → Bool} {run rest : List Char}

/-! ## Parts of a text -/

theorem start_bind (reader : Reader α) (next : α → Reader β) (cs : List Char) :
    (reader >>= next).start cs =
      (reader.start cs).bind fun found => (next found.1).start found.2 :=
  rfl

theorem start_pure (value : α) (cs : List Char) :
    (pure value : Reader α).start cs = some (value, cs) :=
  rfl

/-- No character of a kind stands at the front of a text. -/
def NoneAhead (kind : Char → Bool) (cs : List Char) : Prop := cs.head?.any kind = false

theorem noneAhead_cons {c : Char} (other : kind c = false) (rest : List Char) :
    NoneAhead kind (c :: rest) :=
  other

theorem start_mark (text : String) (rest : List Char) :
    (mark text).start (text.toList ++ rest) = some ((), rest) := by
  have found : text.toList.isPrefixOf? (text.toList ++ rest) = some rest :=
    List.isPrefixOf?_eq_some_iff_append_eq.mpr rfl
  change (text.toList.isPrefixOf? _).map _ = _
  rw [found]
  rfl

theorem start_span (all : ∀ c ∈ run, kind c = true) (stop : NoneAhead kind rest) :
    (span kind).start (run ++ rest) = some (run, rest) := by
  change some ((run ++ rest).takeWhile kind, (run ++ rest).dropWhile kind) = _
  rw [List.takeWhile_append_of_pos all, List.dropWhile_append_of_pos all]
  cases rest with
  | nil => simp
  | cons c rest =>
      have other : kind c = false := stop
      simp [other]

/-- Nothing is taken where nothing of the kind stands. -/
theorem start_span_nothing (stop : NoneAhead kind rest) : (span kind).start rest = some ([], rest) :=
  @start_span kind [] rest nofun stop

/-- Items that stand one behind the other are found one after the other. -/
theorem manyWithin_flatMap
    {write : α → List Char}
    {Follows : List Char → Prop}
    {items : List α}
    {bound : Nat}
    (reads : ∀ item ∈ items, ∀ rest, Follows rest →
      reader.start (write item ++ rest) = some (item, rest))
    (goesOn : ∀ item ∈ items, ∀ rest, Follows (write item ++ rest))
    (follows : Follows rest)
    (ends : reader.start rest = none)
    (enough : items.length ≤ bound) :
    manyWithin reader bound (items.flatMap write ++ rest) = (items, rest) := by
  induction items generalizing bound with
  | nil =>
      cases bound with
      | zero => rfl
      | succ bound =>
          rw [List.flatMap_nil, List.nil_append, manyWithin, ends]
  | cons item others inductionHypothesis =>
      rw [List.forall_mem_cons] at reads goesOn
      cases bound with
      | zero => exact absurd enough (Nat.not_succ_le_zero _)
      | succ bound =>
          have followsOthers : Follows (others.flatMap write ++ rest) := by
            cases others with
            | nil => exact follows
            | cons second more =>
                rw [List.flatMap_cons, List.append_assoc]
                exact goesOn.2 second List.mem_cons_self _
          rw [List.flatMap_cons, List.append_assoc, manyWithin, reads.1 _ followsOthers]
          simp only
          rw [inductionHypothesis reads.2 goesOn.2 (Nat.le_of_succ_le_succ enough)]

theorem start_many
    (Follows : List Char → Prop)
    {write : α → List Char}
    {items : List α}
    (nonempty : ∀ item ∈ items, write item ≠ [])
    (reads : ∀ item ∈ items, ∀ rest, Follows rest →
      reader.start (write item ++ rest) = some (item, rest))
    (goesOn : ∀ item ∈ items, ∀ rest, Follows (write item ++ rest))
    (follows : Follows rest)
    (ends : reader.start rest = none) :
    (many reader).start (items.flatMap write ++ rest) = some (items, rest) := by
  have enough : items.length ≤ (items.flatMap write ++ rest).length := by
    clear reads goesOn
    induction items with
    | nil => exact Nat.zero_le _
    | cons item others inductionHypothesis =>
        rw [List.forall_mem_cons] at nonempty
        have first := List.length_pos_of_ne_nil nonempty.1
        have later := inductionHypothesis nonempty.2
        rw [List.flatMap_cons, List.append_assoc, List.length_append, List.length_cons]
        omega
  exact congrArg some (manyWithin_flatMap reads goesOn follows ends enough)

/-- Items with a separator between them are found one after the other. -/
theorem start_separated
    (Follows : List Char → Prop)
    {write : α → List Char}
    {separator : Reader Unit}
    {between : List Char}
    {first : α}
    {others : List α}
    (reads : ∀ item ∈ first :: others, ∀ rest, Follows rest →
      reader.start (write item ++ rest) = some (item, rest))
    (divides : ∀ item ∈ others, ∀ rest,
      separator.start (between ++ (write item ++ rest)) = some ((), write item ++ rest))
    (nonempty : between ≠ [])
    (goesOn : ∀ rest, Follows (between ++ rest))
    (follows : Follows rest)
    (ends : separator.start rest = none) :
    (separated separator reader).start
        (write first ++ (others.flatMap (between ++ write ·) ++ rest)) =
      some (first :: others, rest) := by
  rw [List.forall_mem_cons] at reads
  have followsFirst : Follows (others.flatMap (between ++ write ·) ++ rest) := by
    cases others with
    | nil => exact follows
    | cons second more =>
        rw [List.flatMap_cons, List.append_assoc, List.append_assoc]
        exact goesOn _
  have found : (maybe reader).start (write first ++ (others.flatMap (between ++ write ·) ++ rest)) =
      some (some first, others.flatMap (between ++ write ·) ++ rest) := by
    rw [maybe, start_ofFunction, reads.1 _ followsFirst]
  have further : (many (do separator; reader)).start
      (others.flatMap (between ++ write ·) ++ rest) = some (others, rest) := by
    refine start_many Follows (fun item _ => ?_) (fun item member rest here => ?_)
      (fun item _ rest => ?_) follows ?_
    · exact List.append_ne_nil_of_left_ne_nil nonempty _
    · rw [start_bind, List.append_assoc, divides item member]
      exact reads.2 item member rest here
    · rw [List.append_assoc]
      exact goesOn _
    · rw [start_bind, ends]
      rfl
  rw [separated, start_bind, found, Option.bind_some]
  simp only
  rw [start_bind, further, Option.bind_some, start_pure]

end Reader

namespace Json

open Reader

variable {rest : List Char}

/-! ## Texts -/

theorem hexValue?_hexDigit : ∀ n < 16, hexValue? (hexDigit n) = some n := by decide

theorem escapeChar_ne_nil (c : Char) : escapeChar c ≠ [] := by
  unfold escapeChar
  repeat' split
  all_goals exact List.cons_ne_nil _ _

theorem start_code {a b c d : Char} {n₁ n₂ n₃ n₄ : Nat}
    (first : hexValue? a = some n₁) (second : hexValue? b = some n₂)
    (third : hexValue? c = some n₃) (fourth : hexValue? d = some n₄)
    (rest : List Char) :
    code.start (a :: b :: c :: d :: rest) = some (((n₁ * 16 + n₂) * 16 + n₃) * 16 + n₄, rest) := by
  change (do
    let a ← hexValue? a
    let b ← hexValue? b
    let c ← hexValue? c
    let d ← hexValue? d
    return (((a * 16 + b) * 16 + c) * 16 + d, rest)) = _
  rw [first, second, third, fourth]
  rfl

/-- A character below the blank is written with two hexadecimal digits and read back from them. -/
theorem start_character_control {c : Char} (control : c.toNat < 32) (rest : List Char) :
    character.start
        ('\\' :: 'u' :: '0' :: '0' :: hexDigit (c.toNat / 16) :: hexDigit (c.toNat % 16) :: rest) =
      some (c, rest) := by
  have high := hexValue?_hexDigit (c.toNat / 16) (by omega)
  have low := hexValue?_hexDigit (c.toNat % 16) (by omega)
  have zero : hexValue? '0' = some 0 := rfl
  have value : ((0 * 16 + 0) * 16 + c.toNat / 16) * 16 + c.toNat % 16 = c.toNat := by omega
  have decoded : (codedCharacter c.toNat).start rest = some (c, rest) := by
    unfold codedCharacter
    rw [if_neg (by omega), if_neg (by omega), Char.ofNat_toNat]
    rfl
  change (code >>= codedCharacter).start _ = _
  rw [start_bind, start_code zero zero high low, Option.bind_some, value]
  exact decoded

/-- Every character is read back from how it is written inside quotes. -/
theorem start_character (c : Char) (rest : List Char) :
    character.start (escapeChar c ++ rest) = some (c, rest) := by
  unfold escapeChar
  iterate 7
    split
    · next same => subst same; rfl
  split
  · next control => exact start_character_control control rest
  · next noQuote noBackslash _ _ _ _ _ noControl =>
      have plain : (c ≠ '"' && 32 ≤ c.toNat) = true := by
        simpa [noQuote] using Nat.le_of_not_lt noControl
      have taken : (char fun c => c ≠ '"' && 32 ≤ c.toNat).start (c :: rest) = some (c, rest) :=
        if_pos plain
      rw [List.singleton_append, character, start_bind, taken, Option.bind_some, if_neg noBackslash]
      rfl

/-- A text is read back from between its quotes. -/
theorem start_string (s : String) (rest : List Char) :
    string.start ((quoted s).toList ++ rest) = some (s, rest) := by
  have body : (many character).start (s.toList.flatMap escapeChar ++ '"' :: rest) =
      some (s.toList, '"' :: rest) :=
    start_many (fun _ => True) (fun c _ => escapeChar_ne_nil c)
      (fun c _ rest _ => start_character c rest) (fun _ _ _ => trivial) trivial rfl
  have opened := start_mark "\"" (s.toList.flatMap escapeChar ++ '"' :: rest)
  have closed := start_mark "\"" rest
  have whole : (quoted s).toList ++ rest =
      "\"".toList ++ (s.toList.flatMap escapeChar ++ '"' :: rest) := by
    simp [quoted]
  rw [whole, string, start_bind, opened, Option.bind_some]
  simp only
  rw [start_bind, body, Option.bind_some]
  simp only
  rw [start_bind]
  change ((mark "\"").start ("\"".toList ++ rest)).bind _ = _
  rw [closed, Option.bind_some, start_pure, String.ofList_toList]

/-! ## Numbers -/

/-- Only zero is written with a zero in front. -/
theorem eq_zero_of_head_digitsOf {n : Nat} (zero : (Number.digitsOf n).head? = some '0') :
    Number.digitsOf n = ['0'] := by
  obtain ⟨rest, digits⟩ : ∃ rest, Number.digitsOf n = '0' :: rest := by
    cases digits : Number.digitsOf n with
    | nil => exact absurd digits (Number.digitsOf_ne_nil n)
    | cons c rest =>
        rw [digits, List.head?_cons, Option.some.injEq] at zero
        exact ⟨rest, by rw [zero]⟩
  by_cases alone : rest = []
  · rw [digits, alone]
  · -- without the zero there would be fewer digits for the same number
    have same : n = Number.natOfDigits rest := by
      have value := Number.natOfDigits_digitsOf n
      rw [digits] at value
      exact value.symm
    have restDigits : ∀ c ∈ rest, c.isDigit = true := by
      intro c member
      exact Number.isDigit_of_mem_digitsOf (digits ▸ List.mem_cons_of_mem _ member)
    have small := Number.natOfDigits_lt restDigits
    rw [← same] at small
    have short := (Number.length_digitsOf_le_iff (List.length_pos_of_ne_nil alone)).mpr small
    rw [digits, List.length_cons] at short
    exact absurd short (Nat.not_succ_le_self _)

/-- A number is read back if no digit follows. -/
theorem start_natural (n : Nat) (stop : NoneAhead Char.isDigit rest) :
    natural.start ((toString n).toList ++ rest) = some (n, rest) := by
  have digits : (toString n).toList = Number.digitsOf n := by simp [Number.digitsOf]
  have allDigits : ∀ c ∈ Number.digitsOf n, c.isDigit = true :=
    fun c member => Number.isDigit_of_mem_digitsOf member
  have noZero : ¬((Number.digitsOf n).head? = some '0' ∧ Number.digitsOf n ≠ ['0']) :=
    fun ⟨zero, longer⟩ => longer (eq_zero_of_head_digitsOf zero)
  have read : Number.readDigits (Number.digitsOf n) = some n := by
    have nonempty : (Number.digitsOf n).isEmpty = false := by simp [Number.digitsOf_ne_nil]
    rw [Number.readDigits, nonempty, List.all_eq_true.mpr allDigits, Number.natOfDigits_digitsOf]
    rfl
  rw [digits, natural, start_bind, start_span allDigits stop, Option.bind_some]
  simp only [if_neg noZero, read]
  rfl

/-! ## Values -/

/-- A value as it is written. -/
def Scalar.written : Scalar → String
  | .text value => quoted value
  | .number value => toString value
  | .truth value => if value then "true" else "false"
  | .null => "null"

theorem start_peek (c : Char) (cs : List Char) :
    peek.start (c :: cs) = some (some c, c :: cs) :=
  rfl

/-- A number starts with a digit. -/
theorem exists_digit (n : Nat) : ∃ c cs, (toString n).toList = c :: cs ∧ c.isDigit = true := by
  have digits : (toString n).toList = Number.digitsOf n := by simp [Number.digitsOf]
  cases written : Number.digitsOf n with
  | nil => exact absurd written (Number.digitsOf_ne_nil n)
  | cons c cs =>
      have first : c ∈ Number.digitsOf n := written ▸ List.mem_cons_self
      exact ⟨c, cs, digits.trans written, Number.isDigit_of_mem_digitsOf first⟩

/-- No value starts with a blank. -/
theorem noneAhead_written (value : Scalar) (rest : List Char) :
    NoneAhead isBetween (value.written.toList ++ rest) := by
  cases value with
  | text value =>
      have front : (quoted value).toList = '"' :: (value.toList.flatMap escapeChar ++ ['"']) := by
        simp [quoted]
      rw [Scalar.written, front]
      rfl
  | number value =>
      obtain ⟨c, cs, written, digit⟩ := exists_digit value
      rw [Scalar.written, written]
      apply noneAhead_cons
      simp only [isBetween, Bool.or_eq_false_iff, decide_eq_false_iff_not]
      refine ⟨⟨⟨?_, ?_⟩, ?_⟩, ?_⟩ <;> rintro rfl <;> exact absurd digit (by decide)
  | truth value => cases value <;> rfl
  | null => rfl

/-- A word that stands for a value is read by its mark. -/
theorem start_scalar_mark
    {word : String}
    {value : Scalar}
    (reads : ∀ rest, scalar.start (word.toList ++ rest) =
      ((mark word).start (word.toList ++ rest)).bind fun found => some (value, found.2))
    (rest : List Char) :
    scalar.start (word.toList ++ rest) = some (value, rest) := by
  rw [reads, start_mark, Option.bind_some]

/-- A value is read back if no digit follows. -/
theorem start_scalar (value : Scalar) (stop : NoneAhead Char.isDigit rest) :
    scalar.start (value.written.toList ++ rest) = some (value, rest) := by
  cases value with
  | text value =>
      obtain ⟨cs, front⟩ : ∃ cs, (quoted value).toList ++ rest = '"' :: cs := by simp [quoted]
      have read := start_string value rest
      rw [front] at read
      rw [Scalar.written, front, scalar, start_bind, start_peek, Option.bind_some]
      change (string.start ('"' :: cs)).bind _ = _
      rw [read]
      rfl
  | number value =>
      obtain ⟨c, cs, written, digit⟩ := exists_digit value
      have read := start_natural value stop
      rw [written, List.cons_append] at read
      rw [Scalar.written, written, List.cons_append, scalar, start_bind, start_peek,
        Option.bind_some]
      simp only
      -- none of the characters that start another value is a digit
      split
      iterate 4
        · next same => cases same; exact absurd digit (by decide)
      · rw [start_bind, read]
        rfl
  | truth value =>
      cases value with
      | true => exact start_scalar_mark (fun _ => rfl) rest
      | false => exact start_scalar_mark (fun _ => rfl) rest
  | null => exact start_scalar_mark (fun _ => rfl) rest

/-! ## Objects -/

/-- A mark is found where it was written without blanks around it. -/
theorem start_punctuation
    (text : String)
    (tight : ∀ rest, NoneAhead isBetween (text.toList ++ rest))
    (stop : NoneAhead isBetween rest) :
    (punctuation text).start (text.toList ++ rest) = some ((), rest) := by
  have before := start_span_nothing (tight rest)
  have after := start_span_nothing stop
  rw [punctuation, start_bind, before, Option.bind_some]
  simp only
  rw [start_bind, start_mark, Option.bind_some]
  simp only
  rw [start_bind, after, Option.bind_some]
  rfl

/-- A field as it is written. -/
def writtenField (field : String × Scalar) : List Char :=
  (quoted field.1).toList ++ (':' :: field.2.written.toList)

theorem noneAhead_writtenField (field : String × Scalar) (rest : List Char) :
    NoneAhead isBetween (writtenField field ++ rest) := by
  rw [writtenField, List.append_assoc]
  exact noneAhead_written (.text field.1) _

/-- A field is read back if no digit follows. -/
theorem start_field (item : String × Scalar) (stop : NoneAhead Char.isDigit rest) :
    field.start (writtenField item ++ rest) = some (item, rest) := by
  have name := start_string item.1 (':' :: (item.2.written.toList ++ rest))
  have colon := start_punctuation ":" (fun _ => rfl) (noneAhead_written item.2 rest)
  have shape : writtenField item ++ rest =
      (quoted item.1).toList ++ ':' :: (item.2.written.toList ++ rest) := by simp [writtenField]
  rw [shape, field, start_bind, name, Option.bind_some]
  simp only
  rw [start_bind]
  change ((punctuation ":").start (":".toList ++ (item.2.written.toList ++ rest))).bind _ = _
  rw [colon, Option.bind_some]
  simp only
  rw [start_bind, start_scalar item.2 stop, Option.bind_some]
  rfl

/-- Joined pieces are the first one and the others, each behind a separator. -/
theorem intercalate_cons_eq_flatMap {α : Type} (separator piece : List α)
    (others : List (List α)) :
    separator.intercalate (piece :: others) = piece ++ others.flatMap (separator ++ ·) := by
  induction others generalizing piece with
  | nil => simp
  | cons next others inductionHypothesis =>
      rw [List.intercalate_cons_cons, inductionHypothesis, List.flatMap_cons]
      simp only [List.append_assoc]

/-- An object as a list of characters. -/
theorem toList_object (items : List (String × Scalar)) :
    (object (items.map fun item => (item.1, item.2.written))).toList =
      "\x7b".toList ++ ([','].intercalate (items.map writtenField) ++ "\x7d".toList) := by
  have joined : (fun item : String × Scalar => (quoted item.1 ++ ":" ++ item.2.written).toList) =
      writtenField := by
    funext item
    simp [writtenField]
  simp [object, String.toList_intercalate, Function.comp_def, ← joined]

/-- The fields between the braces are read back. -/
theorem start_separated_field (items : List (String × Scalar)) :
    (separated (punctuation ",") field).start
        ([','].intercalate (items.map writtenField) ++ "\x7d".toList) =
      some (items, "\x7d".toList) := by
  cases items with
  | nil => rfl
  | cons first others =>
      rw [List.map_cons, intercalate_cons_eq_flatMap, List.flatMap_map, List.append_assoc]
      exact start_separated (NoneAhead Char.isDigit)
        (fun item _ _ stop => start_field item stop)
        (fun item _ rest => start_punctuation "," (fun _ => rfl)
          (noneAhead_writtenField item rest))
        (List.cons_ne_nil _ _) (fun _ => rfl) rfl rfl

/-- The fields of an object are read back from it. -/
theorem readObject?_object (items : List (String × Scalar)) :
    readObject? (object (items.map fun item => (item.1, item.2.written))) = some items := by
  have stop : NoneAhead isBetween
      ([','].intercalate (items.map writtenField) ++ "\x7d".toList) := by
    cases items with
    | nil => rfl
    | cons first others =>
        rw [List.map_cons, intercalate_cons_eq_flatMap, List.append_assoc]
        exact noneAhead_writtenField first _
  have opened := start_punctuation "\x7b" (fun _ => rfl) stop
  have read : fields.start (object (items.map fun item => (item.1, item.2.written))).toList =
      some (items, []) := by
    rw [toList_object, fields, start_bind, opened, Option.bind_some]
    simp only
    rw [start_bind, start_separated_field, Option.bind_some]
    rfl
  rw [readObject?, whole?, read]

end Json
end Text
end TailView
