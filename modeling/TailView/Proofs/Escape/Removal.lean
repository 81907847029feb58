import TailView.Proofs.Escape.Pattern

/-!
# Stripping as removal of a pattern

Whatever the pattern for sequences matches is cut out of a text, from the left: the next match is
one that starts first, and the search goes on behind it.  Sequences neither overlap nor begin with
one another, so this is the same as reading the text once and leaving out each sequence that
starts.
-/

namespace TailView

namespace Pattern

variable {expr : Expr} {left gap found rest text kept : List Char}

/-- Whether a match starts between two texts. -/
def Expr.StartsBetween (expr : Expr) (left right : List Char) : Prop :=
  ∃ found after, right = found ++ after ∧ expr.Matches left found after

/-- What is kept of a text behind `left` when all that an expression matches is cut out. -/
inductive Expr.Removed (expr : Expr) : List Char → List Char → List Char → Prop
  /-- There is no match any more. -/
  | done {left text : List Char} :
      (∀ before after, text = before ++ after → ¬expr.StartsBetween (left ++ before) after) →
      Removed expr left text text
  /-- A match is cut out if none starts before it. -/
  | cut {left gap found rest kept : List Char} :
      (∀ before others, gap = before ++ others → others ≠ [] →
        ¬expr.StartsBetween (left ++ before) (others ++ (found ++ rest))) →
      expr.Matches (left ++ gap) found rest →
      Removed expr (left ++ gap ++ found) rest kept →
      Removed expr left (gap ++ (found ++ rest)) (gap ++ kept)

end Pattern

namespace Text
namespace Escape

open Pattern

variable {left right gap rest cs kept : List Char}

theorem startsBetween_iff :
    sequenceExpr.StartsBetween left right ↔
      ∃ sequence, IsSequence sequence ∧ sequence <+: right := by
  constructor
  · rintro ⟨sequence, after, rfl, matched⟩
    exact ⟨sequence, matches_sequenceExpr_iff.mp matched, List.prefix_append sequence after⟩
  · rintro ⟨sequence, isSequence, after, rfl⟩
    exact ⟨sequence, after, rfl, matches_sequenceExpr_iff.mpr isSequence⟩

/-- A text is free of sequences if none starts anywhere in it. -/
theorem sequenceFree_iff_not_startsBetween :
    SequenceFree cs ↔
      ∀ before after, cs = before ++ after →
        ¬sequenceExpr.StartsBetween (left ++ before) after := by
  simp only [startsBetween_iff]
  constructor
  · rintro free before after rfl ⟨sequence, isSequence, starts⟩
    exact free sequence isSequence (starts.isInfix.trans (List.suffix_append before after).isInfix)
  · rintro nowhere sequence isSequence ⟨before, after, rfl⟩
    exact nowhere before (sequence ++ after) (List.append_assoc ..)
      ⟨sequence, isSequence, List.prefix_append sequence after⟩

theorem SequenceFree.stripped (free : SequenceFree cs) : Stripped cs cs := by
  have stripped := stripped_stripChars cs
  rwa [stripChars_eq_self_iff.mpr free] at stripped

/-- Where no sequence starts every character is kept. -/
theorem Stripped.append_left
    (nowhere : ∀ before others, gap = before ++ others → others ≠ [] →
      ¬sequenceExpr.StartsBetween (left ++ before) (others ++ rest))
    (stripped : Stripped rest kept) :
    Stripped (gap ++ rest) (gap ++ kept) := by
  simp only [startsBetween_iff, not_exists, not_and] at nowhere
  have free : SequenceFree gap := by
    rintro sequence isSequence ⟨before, after, same⟩
    rw [List.append_assoc] at same
    have nonempty := List.append_ne_nil_of_left_ne_nil isSequence.ne_nil after
    apply nowhere before (sequence ++ after) same.symm nonempty sequence isSequence
    rw [List.append_assoc]
    exact List.prefix_append sequence _
  refine free.stripped.append stripped ?_
  rintro start others nonempty ⟨before, same⟩ within isSequence
  exact absurd ((List.prefix_append_right_inj start).mpr within)
    (nowhere before start same.symm nonempty _ isSequence)

/-- What is kept is what reading from the left keeps. -/
theorem stripped_of_removed (removed : sequenceExpr.Removed left cs kept) : Stripped cs kept := by
  induction removed with
  | done nowhere => exact (sequenceFree_iff_not_startsBetween.mpr nowhere).stripped
  | cut nowhere matched _ inductionHypothesis =>
      exact Stripped.append_left nowhere
        (.leave (matches_sequenceExpr_iff.mp matched) inductionHypothesis)

/-- What stands before a text does not matter. -/
theorem Stripped.removed_sequenceExpr (stripped : Stripped cs kept) (left : List Char) :
    sequenceExpr.Removed left cs kept := by
  induction stripped generalizing left with
  | nil => exact .done (sequenceFree_iff_not_startsBetween.mp sequenceFree_nil)
  | @leave sequence rest kept isSequence _ inductionHypothesis =>
      have nowhere : ∀ before others, [] = before ++ others → others ≠ [] →
          ¬sequenceExpr.StartsBetween (left ++ before) (others ++ (sequence ++ rest)) := by
        intro before others same nonempty
        exact absurd (List.append_eq_nil_iff.mp same.symm).2 nonempty
      exact .cut nowhere (matches_sequenceExpr_iff.mpr isSequence) (inductionHypothesis _)
  | @keep c rest kept nothing _ inductionHypothesis =>
      have here : ∀ left, ¬sequenceExpr.StartsBetween left (c :: rest) := by
        intro left
        rw [startsBetween_iff]
        rintro ⟨sequence, isSequence, starts⟩
        exact nothing sequence isSequence starts
      cases inductionHypothesis (left ++ [c]) with
      | done nowhere =>
          have free := sequenceFree_iff_not_startsBetween.mpr nowhere
          exact .done (sequenceFree_iff_not_startsBetween.mp
            (sequenceFree_cons_iff.mpr ⟨nothing, free⟩))
      | @cut _ gap found rest kept nowhere matched removed =>
          have nowhereBefore : ∀ before others, c :: gap = before ++ others → others ≠ [] →
              ¬sequenceExpr.StartsBetween (left ++ before) (others ++ (found ++ rest)) := by
            intro before others same nonempty
            cases before with
            | nil =>
                rw [List.nil_append] at same
                subst same
                exact here _
            | cons first before =>
                obtain ⟨rfl, rfl⟩ := List.cons.inj same
                have later := nowhere before others rfl nonempty
                rwa [List.append_assoc] at later
          rw [List.append_assoc left [c] gap] at matched removed
          exact .cut nowhereBefore matched removed

/-- Cutting out what the pattern matches is reading from the left. -/
theorem removed_iff_stripped : sequenceExpr.Removed left cs kept ↔ Stripped cs kept :=
  ⟨stripped_of_removed, fun stripped => stripped.removed_sequenceExpr left⟩

end Escape
end Text
end TailView
