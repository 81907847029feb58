import TailView.Proofs.Escape.Stripped
import TailView.Proofs.Pattern.Plain

/-!
# The pattern for escape sequences

One pattern stands for all three forms of sequences.  It matches the complete sequences and nothing
else, and what stands around a sequence does not matter.
-/

namespace TailView
namespace Text
namespace Escape

open Pattern

variable {left text right : List Char} {c : Char}

/-! ## The characters of sequences -/

/-- What `isParameter` accepts. -/
def parameterSet : CharSet := .union (.range 48 57) (.union (.single ';') (.single '?'))

/-- The letters that end a control sequence. -/
def letterSet : CharSet := .union (.range 65 90) (.range 97 122)

/-- What a system command is made of. -/
def commandSet : CharSet := .compl (.union (.single bel) (.single esc))

/-- What stands before the name of a character set. -/
def bracketSet : CharSet := .union (.single '(') (.single ')')

/-- What `isCharset` accepts. -/
def nameSet : CharSet := .union (.range 65 66) (.range 48 50)

theorem contains_parameterSet : parameterSet.contains c.toNat = true ↔ isParameter c = true := by
  rw [parameterSet, contains_union_iff, contains_union_iff, contains_single_iff,
    contains_single_iff, contains_range_iff, isParameter, Bool.or_eq_true, Bool.or_eq_true,
    decide_eq_true_eq, decide_eq_true_eq, or_assoc, Char.isDigit, Bool.and_eq_true,
    decide_eq_true_eq, decide_eq_true_eq]
  exact Iff.rfl

theorem contains_letterSet : letterSet.contains c.toNat = true ↔ c.isAlpha = true := by
  change _ ↔
    (decide (65 ≤ c.val ∧ c.val ≤ 90) || decide (97 ≤ c.val) && decide (c.val ≤ 122)) = true
  rw [letterSet, contains_union_iff, contains_range_iff, contains_range_iff, Bool.or_eq_true,
    decide_eq_true_eq, Bool.and_eq_true, decide_eq_true_eq, decide_eq_true_eq]
  exact Iff.rfl

theorem contains_commandSet : commandSet.contains c.toNat = true ↔ c ≠ bel ∧ c ≠ esc := by
  rw [commandSet, contains_compl_iff, contains_union_iff, contains_single_iff,
    contains_single_iff, not_or]

theorem contains_bracketSet : bracketSet.contains c.toNat = true ↔ c = '(' ∨ c = ')' := by
  rw [bracketSet, contains_union_iff, contains_single_iff, contains_single_iff]

theorem contains_nameSet : nameSet.contains c.toNat = true ↔ isCharset c = true := by
  have code : ∀ d : Char, c = d ↔ c.toNat = d.toNat := fun d => Char.toNat_inj.symm
  rw [nameSet, contains_union_iff, contains_range_iff, contains_range_iff, isCharset]
  simp only [Bool.or_eq_true, decide_eq_true_eq, code, Char.reduceToNat]
  omega

/-! ## The pattern -/

/-- What the pattern is read as. -/
def sequenceTree : Pattern.Tree :=
  let start : Pattern.Tree := .literal { char := esc, asByte := true }
  .alt
    (.cat start <| .word ['['] <|
      .cat (.repetition 0 none false (.bracketed false
        (.union (.range { char := '0' } { char := '9' })
          (.union (.literal { char := ';' }) (.literal { char := '?' })))))
      (.bracketed false (.union (.range { char := 'A' } { char := 'Z' })
        (.range { char := 'a' } { char := 'z' })))) <|
  .alt
    (.cat start <| .word [']'] <|
      .cat (.repetition 0 none false (.bracketed true
        (.union (.literal { char := bel, asByte := true })
          (.literal { char := esc, asByte := true }))))
      (.group none [] (.alt (.literal { char := bel, asByte := true })
        (.cat start (.literal { char := '\\' })))))
    (.cat start <|
      .cat (.bracketed false (.union (.literal { char := '(' }) (.literal { char := ')' })))
      (.bracketed false (.union (.range { char := 'A' } { char := 'B' })
        (.range { char := '0' } { char := '2' }))))

/-- As `sequenceTree`, with the sets of characters. -/
def sequenceExpr : Expr :=
  .alt (.word [esc, '['] <| .cat (.repetition 0 none false (.set parameterSet)) (.set letterSet)) <|
  .alt (.word [esc, ']'] <| .cat (.repetition 0 none false (.set commandSet)) <|
    .alt (.set (.single bel)) (.word [esc] (.set (.single '\\'))))
  (.word [esc] <| .cat (.set bracketSet) (.set nameSet))

theorem denotes_sequenceTree : sequenceTree.Denotes sequenceExpr := by
  have start := Tree.denotes_literal { char := esc, asByte := true }
  have parameter : (Tree.bracketed false (.union (.range { char := '0' } { char := '9' })
      (.union (.literal { char := ';' }) (.literal { char := '?' })))).Denotes
      (.set parameterSet) := rfl
  have letter : (Tree.bracketed false (.union (.range { char := 'A' } { char := 'Z' })
      (.range { char := 'a' } { char := 'z' }))).Denotes (.set letterSet) := rfl
  have command : (Tree.bracketed true (.union (.literal { char := bel, asByte := true })
      (.literal { char := esc, asByte := true }))).Denotes (.set commandSet) := rfl
  have bracket : (Tree.bracketed false
      (.union (.literal { char := '(' }) (.literal { char := ')' }))).Denotes
      (.set bracketSet) := rfl
  have name : (Tree.bracketed false (.union (.range { char := 'A' } { char := 'B' })
      (.range { char := '0' } { char := '2' }))).Denotes (.set nameSet) := rfl
  have parameters : (Tree.repetition 0 none false _).Denotes (.repetition 0 none false _) :=
    parameter.run nofun
  have commands : (Tree.repetition 0 none false _).Denotes (.repetition 0 none false _) :=
    command.run nofun
  have terminator := (Tree.denotes_literal { char := bel, asByte := true }).alt
    (start.cat (Tree.denotes_literal { char := '\\' }))
  exact (start.cat (parameters.cat letter).word).alt
    ((start.cat (commands.cat terminator.group).word).alt (start.cat (bracket.cat name)))

/-- The pattern matches complete sequences, wherever they stand. -/
theorem matches_sequenceExpr_iff : sequenceExpr.Matches left text right ↔ IsSequence text := by
  simp only [sequenceExpr, Expr.matches_alt_iff, Expr.matches_word_iff, Expr.matches_cat_iff,
    Expr.matches_run_iff, Expr.matches_set_iff, contains_single_iff, contains_parameterSet,
    contains_letterSet, contains_commandSet, contains_bracketSet, contains_nameSet]
  constructor
  · rintro (⟨_, rfl, parameters, _, rfl, ⟨-, -, allParameters⟩, letter, rfl, isAlpha⟩ |
      ⟨_, rfl, inside, _, rfl, ⟨-, -, plain⟩, ends⟩ |
      ⟨_, rfl, _, _, rfl, ⟨bracket, rfl, isBracket⟩, name, rfl, isName⟩)
    · exact .control parameters letter allParameters isAlpha
    · rcases ends with ⟨_, rfl, rfl⟩ | ⟨_, rfl, _, rfl, rfl⟩
      · exact .command inside [bel] plain (.inl rfl)
      · exact .command inside [esc, '\\'] plain (.inr rfl)
    · exact .charset bracket name isBracket isName
  · rintro (⟨parameters, letter, allParameters, isAlpha⟩ | ⟨inside, terminator, plain, ends⟩ |
      ⟨bracket, name, isBracket, isName⟩)
    · exact .inl ⟨_, rfl, parameters, _, rfl, ⟨Nat.zero_le _, nofun, allParameters⟩, letter, rfl,
        isAlpha⟩
    · refine .inr (.inl ⟨_, rfl, inside, terminator, rfl, ⟨Nat.zero_le _, nofun, plain⟩, ?_⟩)
      rcases ends with rfl | rfl
      · exact .inl ⟨_, rfl, rfl⟩
      · exact .inr ⟨_, rfl, _, rfl, rfl⟩
    · exact .inr (.inr ⟨_, rfl, [bracket], [name], rfl, ⟨bracket, rfl, isBracket⟩, name, rfl,
        isName⟩)

theorem ofPattern_sequencePattern :
    Compiled.ofPattern false sequencePattern = .ok ⟨sequenceExpr, Marked.ofExpr sequenceExpr⟩ := by
  have reads : Parser.read sequencePattern.toList = .ok sequenceTree := rfl
  exact denotes_sequenceTree.ofPattern_eq reads (by decide +kernel)

end Escape
end Text
end TailView
