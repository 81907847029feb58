import Mathlib.Data.List.Infix
import TailView.Text.Escape

/-!
# Complete escape sequences

The three forms of escape sequences as a grammar.  A text is recognized as starting with a sequence
exactly if it does, and with which one is certain, since no sequence is the beginning of another one.
Nor do sequences overlap: the only escape character inside a sequence is the one that ends a system
command, and no sequence starts with that.
-/

namespace TailView
namespace Text
namespace Escape

variable {cs sequence : List Char} {c : Char} {n : Nat}

/-- A complete escape sequence. -/
inductive IsSequence : List Char → Prop
  /-- A control sequence. -/
  | control (parameters : List Char) (letter : Char) :
      (∀ c ∈ parameters, isParameter c = true) → letter.isAlpha = true →
      IsSequence (esc :: '[' :: (parameters ++ [letter]))
  /-- A system command. -/
  | command (text terminator : List Char) :
      (∀ c ∈ text, c ≠ bel ∧ c ≠ esc) → terminator = [bel] ∨ terminator = [esc, '\\'] →
      IsSequence (esc :: ']' :: (text ++ terminator))
  /-- The selection of a character set. -/
  | charset (bracket name : Char) :
      bracket = '(' ∨ bracket = ')' → isCharset name = true → IsSequence [esc, bracket, name]

/-- A sequence starts with the escape character and one that opens its form. -/
theorem IsSequence.exists_cons (isSequence : IsSequence sequence) :
    ∃ opener others, sequence = esc :: opener :: others ∧ opener ≠ esc ∧ opener ≠ '\\' := by
  cases isSequence with
  | control | command => exact ⟨_, _, rfl, by decide, by decide⟩
  | charset bracket name isBracket _ =>
      rcases isBracket with rfl | rfl <;> exact ⟨_, _, rfl, by decide, by decide⟩

theorem IsSequence.ne_nil (isSequence : IsSequence sequence) : sequence ≠ [] := by
  obtain ⟨opener, others, rfl, _⟩ := isSequence.exists_cons
  exact List.cons_ne_nil _ _

/-- An escape character after the text of a system command belongs to its end. -/
theorem eq_of_esc_in_command
    {text terminator before others : List Char}
    (inside : ∀ c ∈ text, c ≠ bel ∧ c ≠ esc)
    (ends : terminator = [bel] ∨ terminator = [esc, '\\'])
    (same : text ++ terminator = before ++ esc :: others) :
    others = ['\\'] := by
  induction text generalizing before with
  | nil =>
      rw [List.nil_append] at same
      cases before with
      | nil =>
          rcases ends with rfl | rfl
          · exact absurd (List.cons.inj same).1 (by decide)
          · exact (List.cons.inj same).2.symm
      | cons first more =>
          have member : esc ∈ terminator.tail := by
            rw [same]
            exact List.mem_append_right more List.mem_cons_self
          rcases ends with rfl | rfl <;> exact absurd member (by decide)
  | cons c rest inductionHypothesis =>
      rw [List.forall_mem_cons] at inside
      cases before with
      | nil => exact absurd (List.cons.inj same).1 inside.1.2
      | cons first more => exact inductionHypothesis inside.2 (List.cons.inj same).2

/-- The only escape character inside a sequence is the one that ends a system command. -/
theorem IsSequence.eq_of_esc_inside
    {start others : List Char}
    (isSequence : IsSequence sequence)
    (same : sequence = start ++ esc :: others)
    (inside : start ≠ []) :
    others = ['\\'] := by
  obtain ⟨first, before, rfl⟩ := List.exists_cons_of_ne_nil inside
  cases isSequence with
  | control parameters letter allParameters isAlpha =>
      have member : esc ∈ '[' :: (parameters ++ [letter]) := by
        rw [(List.cons.inj same).2]
        simp
      rw [List.mem_cons, List.mem_append, List.mem_singleton] at member
      rcases member with isBracket | isParameter | rfl
      · exact absurd isBracket (by decide)
      · exact absurd (allParameters esc isParameter) (by decide)
      · exact absurd isAlpha (by decide)
  | command text terminator textInside ends =>
      cases before with
      | nil => exact absurd (List.cons.inj (List.cons.inj same).2).1 (by decide)
      | cons second more =>
          exact eq_of_esc_in_command textInside ends (List.cons.inj (List.cons.inj same).2).2
  | charset bracket name isBracket isCharset =>
      have member : esc ∈ [bracket, name] := by
        rw [(List.cons.inj same).2]
        simp
      rw [List.mem_cons, List.mem_singleton] at member
      rcases member with rfl | rfl
      · exact absurd isBracket (by decide)
      · exact absurd isCharset (by decide)

/-- Behind a blank in a sequence the end of a system command is still to come. -/
theorem IsSequence.mem_of_blank
    {others : List Char}
    (isSequence : IsSequence sequence)
    (ends : ' ' :: others <:+ sequence) :
    esc ∈ others ∨ bel ∈ others := by
  have member : ' ' ∈ sequence := ends.mem List.mem_cons_self
  cases isSequence with
  | control parameters letter allParameters isAlpha =>
      rw [List.mem_cons, List.mem_cons, List.mem_append, List.mem_singleton] at member
      rcases member with isEsc | isBracket | isParameter | rfl
      · exact absurd isEsc (by decide)
      · exact absurd isBracket (by decide)
      · exact absurd (allParameters ' ' isParameter) (by decide)
      · exact absurd isAlpha (by decide)
  | command text terminator inside terminates =>
      have terminatorEnds : terminator <:+ esc :: ']' :: (text ++ terminator) :=
        List.suffix_append (esc :: ']' :: text) terminator
      have noBlank : ' ' ∉ terminator := by
        rcases terminates with rfl | rfl <;> decide
      have insideOthers : terminator <:+ others := by
        rcases List.suffix_or_suffix_of_suffix terminatorEnds ends with shorter | longer
        · rcases List.suffix_cons_iff.mp shorter with rfl | found
          · exact absurd List.mem_cons_self noBlank
          · exact found
        · exact absurd (longer.mem List.mem_cons_self) noBlank
      rcases terminates with rfl | rfl
      · exact .inr (insideOthers.mem List.mem_cons_self)
      · exact .inl (insideOthers.mem List.mem_cons_self)
  | charset bracket name isBracket isCharset =>
      rw [List.mem_cons, List.mem_cons, List.mem_singleton] at member
      rcases member with isEsc | rfl | rfl
      · exact absurd isEsc (by decide)
      · exact absurd isBracket (by decide)
      · exact absurd isCharset (by decide)

/-- A letter ends a control sequence. -/
theorem isParameter_of_isAlpha (isAlpha : c.isAlpha = true) : isParameter c = false := by
  have noDigit : c.isDigit = false := by
    rw [← Bool.not_eq_true]
    intro isDigit
    have atMost : c.val ≤ '9'.val := of_decide_eq_true (Bool.and_eq_true_iff.mp isDigit).2
    rcases Bool.or_eq_true_iff.mp isAlpha with isUpper | isLower
    · have atLeast : 'A'.val ≤ c.val := (of_decide_eq_true isUpper).1
      exact absurd (UInt32.le_trans atLeast atMost) (by decide)
    · have atLeast : 'a'.val ≤ c.val := of_decide_eq_true (Bool.and_eq_true_iff.mp isLower).1
      exact absurd (UInt32.le_trans atLeast atMost) (by decide)
  have noSemicolon : c ≠ ';' := by
    rintro rfl
    exact absurd isAlpha (by decide)
  have noQuestion : c ≠ '?' := by
    rintro rfl
    exact absurd isAlpha (by decide)
  simp [isParameter, noDigit, noSemicolon, noQuestion]

theorem controlLength?_append
    {parameters : List Char}
    {letter : Char}
    (allParameters : ∀ c ∈ parameters, isParameter c = true)
    (isAlpha : letter.isAlpha = true)
    (rest : List Char) :
    controlLength? (parameters ++ letter :: rest) = some (parameters.length + 1) := by
  induction parameters with
  | nil => simp [controlLength?, isParameter_of_isAlpha isAlpha, isAlpha]
  | cons c others inductionHypothesis =>
      rw [List.forall_mem_cons] at allParameters
      simp [controlLength?, allParameters.1, inductionHypothesis allParameters.2]

theorem exists_of_controlLength? (found : controlLength? cs = some n) :
    ∃ parameters letter rest, (∀ c ∈ parameters, isParameter c = true) ∧ letter.isAlpha = true ∧
      cs = parameters ++ letter :: rest ∧ parameters.length + 1 = n := by
  induction cs generalizing n with
  | nil => cases found
  | cons c others inductionHypothesis =>
      rw [controlLength?] at found
      split at found
      · next isParameter =>
          obtain ⟨length, foundRest, rfl⟩ := Option.map_eq_some_iff.mp found
          obtain ⟨parameters, letter, rest, allParameters, isAlpha, rfl, rfl⟩ :=
            inductionHypothesis foundRest
          exact ⟨c :: parameters, letter, rest, List.forall_mem_cons.mpr ⟨isParameter, allParameters⟩,
            isAlpha, rfl, rfl⟩
      · split at found
        · next isAlpha =>
            cases found
            exact ⟨[], c, others, List.forall_mem_nil _, isAlpha, rfl, rfl⟩
        · cases found

theorem commandLength?_append
    {text terminator : List Char}
    (inside : ∀ c ∈ text, c ≠ bel ∧ c ≠ esc)
    (ends : terminator = [bel] ∨ terminator = [esc, '\\'])
    (rest : List Char) :
    commandLength? (text ++ terminator ++ rest) = some (text.length + terminator.length) := by
  induction text with
  | nil => rcases ends with rfl | rfl <;> simp [commandLength?, bel, esc]
  | cons c others inductionHypothesis =>
      rw [List.forall_mem_cons] at inside
      rw [List.cons_append, List.cons_append, commandLength?, if_neg inside.1.1, if_neg inside.1.2,
        inductionHypothesis inside.2, List.length_cons, Option.map_some, Nat.add_right_comm]

theorem exists_of_commandLength? (found : commandLength? cs = some n) :
    ∃ text terminator rest, (∀ c ∈ text, c ≠ bel ∧ c ≠ esc) ∧
      (terminator = [bel] ∨ terminator = [esc, '\\']) ∧
      cs = text ++ terminator ++ rest ∧ text.length + terminator.length = n := by
  induction cs generalizing n with
  | nil => cases found
  | cons c others inductionHypothesis =>
      rw [commandLength?] at found
      split at found
      · next isBel =>
          cases found
          exact ⟨[], [bel], others, List.forall_mem_nil _, .inl rfl, by rw [isBel]; rfl, rfl⟩
      · next notBel =>
          split at found
          · next isEsc =>
              split at found
              · next backslash =>
                  cases found
                  obtain ⟨rest, rfl⟩ := List.head?_eq_some_iff.mp backslash
                  exact ⟨[], [esc, '\\'], rest, List.forall_mem_nil _, .inr rfl, by rw [isEsc]; rfl,
                    rfl⟩
              · cases found
          · next notEsc =>
              obtain ⟨length, foundRest, rfl⟩ := Option.map_eq_some_iff.mp found
              obtain ⟨text, terminator, rest, inside, ends, rfl, rfl⟩ :=
                inductionHypothesis foundRest
              refine ⟨c :: text, terminator, rest,
                List.forall_mem_cons.mpr ⟨⟨notBel, notEsc⟩, inside⟩, ends, rfl, ?_⟩
              rw [List.length_cons, Nat.add_right_comm]

/-- The sequence at the start of a text is found. -/
theorem length?_append (isSequence : IsSequence sequence) (rest : List Char) :
    length? (sequence ++ rest) = some sequence.length := by
  cases isSequence with
  | control parameters letter allParameters isAlpha =>
      simp [length?, controlLength?_append allParameters isAlpha]
  | command text terminator inside ends =>
      have found := commandLength?_append inside ends rest
      rw [List.append_assoc] at found
      simp [length?, found]
  | charset bracket name isBracket isCharset =>
      rcases isBracket with rfl | rfl <;> simp [length?, isCharset]

/-- Two sequences at the start of a text are the same. -/
theorem IsSequence.eq_of_prefix
    {other : List Char}
    (isSequence : IsSequence sequence)
    (isOther : IsSequence other)
    (starts : sequence <+: cs)
    (otherStarts : other <+: cs) :
    sequence = other := by
  obtain ⟨rest, rfl⟩ := starts
  obtain ⟨otherRest, same⟩ := otherStarts
  have found := length?_append isSequence rest
  rw [← same, length?_append isOther] at found
  exact (List.append_inj_left same (Option.some.inj found)).symm

/-- What is found is a sequence at the start of the text. -/
theorem exists_of_length? (found : length? cs = some n) :
    ∃ sequence rest, IsSequence sequence ∧ cs = sequence ++ rest ∧ sequence.length = n := by
  unfold length? at found
  split at found
  · next first second others =>
      split at found
      · next isEsc =>
          subst isEsc
          split at found
          · next isControl =>
              subst isControl
              obtain ⟨length, foundRest, rfl⟩ := Option.map_eq_some_iff.mp found
              obtain ⟨parameters, letter, rest, allParameters, isAlpha, rfl, rfl⟩ :=
                exists_of_controlLength? foundRest
              exact ⟨_, rest, .control parameters letter allParameters isAlpha, by simp, by simp⟩
          · split at found
            · next isCommand =>
                subst isCommand
                obtain ⟨length, foundRest, rfl⟩ := Option.map_eq_some_iff.mp found
                obtain ⟨text, terminator, rest, inside, ends, rfl, rfl⟩ :=
                  exists_of_commandLength? foundRest
                exact ⟨_, rest, .command text terminator inside ends, by simp, by simp⟩
            · split at found
              · next isBracket =>
                  split at found
                  · next name rest =>
                      split at found
                      · next isCharset =>
                          cases found
                          exact ⟨_, rest, .charset second name isBracket isCharset, rfl, rfl⟩
                      · cases found
                  · cases found
              · cases found
      · cases found
  · cases found

/-- Nothing is found exactly if no sequence stands at the start of the text. -/
theorem length?_eq_none_iff :
    length? cs = none ↔ ∀ sequence, IsSequence sequence → ¬sequence <+: cs := by
  constructor
  · rintro nothing sequence isSequence ⟨rest, rfl⟩
    rw [length?_append isSequence] at nothing
    cases nothing
  · intro absent
    cases found : length? cs with
    | none => rfl
    | some length =>
        obtain ⟨sequence, rest, isSequence, rfl, _⟩ := exists_of_length? found
        exact absurd (List.prefix_append sequence rest) (absent sequence isSequence)

end Escape
end Text
end TailView
