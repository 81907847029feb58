import TailView.Log.Entry
import TailView.Log.LineBuffer
import TailView.Proofs.Lossy

/-!
# Lines are lines

A line that is handed out by a line buffer has no newline inside: the buffer keeps no newline byte,
and no other bytes decode to a newline.  So a section that grows by such a line grows by exactly one
line of its text.
-/

namespace TailView
namespace Text

section Pieces

variable {α : Type} [DecidableEq α] {c : α}

/-- A text without the separator is in one piece. -/
theorem pieces_of_not_mem {cs : List α} (absent : c ∉ cs) : pieces c cs = [cs] := by
  induction cs with
  | nil => rfl
  | cons x rest inductionHypothesis =>
      obtain ⟨different, absentRest⟩ := List.ne_and_not_mem_of_not_mem_cons absent
      rw [pieces, if_neg different.symm, inductionHypothesis absentRest]

/-- A separator divides the pieces before it from those after it. -/
theorem pieces_append (before after : List α) :
    pieces c (before ++ c :: after) = pieces c before ++ pieces c after := by
  induction before with
  | nil => simp [pieces]
  | cons x rest inductionHypothesis =>
      rw [List.cons_append, pieces, pieces, inductionHypothesis]
      split
      · rfl
      · cases parts : pieces c rest with
        | nil => exact absurd parts (pieces_ne_nil c rest)
        | cons first others => rfl

end Pieces

/-- A text without newline is one line. -/
theorem lines_of_not_mem {text : String} (absent : '\n' ∉ text.toList) : lines text = [text] := by
  rw [lines, pieces_of_not_mem absent]
  simp

/-- What follows a newline is in the lines after it. -/
theorem lines_append_newline (before after : String) :
    lines (before ++ "\n" ++ after) = lines before ++ lines after := by
  have characters : (before ++ "\n" ++ after).toList = before.toList ++ '\n' :: after.toList := by
    simp
  rw [lines, characters, pieces_append, List.map_append]
  rfl

/-- No line of a text holds a newline. -/
theorem newline_not_mem_of_mem_lines {text line : String} (member : line ∈ lines text) :
    '\n' ∉ line.toList := by
  obtain ⟨piece, isPiece, rfl⟩ := List.mem_map.mp member
  rw [String.toList_ofList]
  exact not_mem_of_mem_pieces isPiece

/-- Joined with newlines, lines without newline are the lines of the text. -/
theorem lines_intercalate
    {parts : List String}
    (nonempty : parts ≠ [])
    (absent : ∀ line ∈ parts, '\n' ∉ line.toList) :
    lines ("\n".intercalate parts) = parts := by
  induction parts with
  | nil => exact absurd rfl nonempty
  | cons line rest inductionHypothesis =>
      rw [List.forall_mem_cons] at absent
      by_cases last : rest = []
      · rw [last, String.intercalate_singleton, lines_of_not_mem absent.1]
      · rw [String.intercalate_cons_of_ne_nil last, lines_append_newline,
          lines_of_not_mem absent.1, inductionHypothesis last absent.2]
        rfl

namespace Utf8

/-- Only a newline byte decodes to a newline. -/
theorem newline_not_mem_decodeString {bytes : List UInt8} (absent : 10 ∉ bytes) :
    '\n' ∉ (decodeString bytes).toList := by
  rw [decodeString, String.toList_ofList]
  exact fun member => absent ((lossy_decode bytes).mem_of_ascii member (by decide))

end Utf8
end Text

/-- A section that grows by a line without newline has one more line. -/
theorem Entry.lines_addLine (entry : Entry) {line : String} (absent : '\n' ∉ line.toList) :
    (entry.addLine line).lines = entry.lines ++ [line] := by
  rw [lines, addLine, Text.lines_append_newline, Text.lines_of_not_mem absent]
  rfl

namespace LineBuffer

/-- No newline waits. -/
def Clean (buffer : LineBuffer) : Prop := newline ∉ buffer.reversed

theorem newline_not_mem_lineOfReversed {reversed : List UInt8} (clean : newline ∉ reversed) :
    '\n' ∉ (lineOfReversed reversed).toList := by
  cases reversed with
  | nil => simp [lineOfReversed]
  | cons last rest =>
      apply Text.Utf8.newline_not_mem_decodeString
      split
      · rw [List.mem_reverse]
        exact List.not_mem_of_not_mem_cons clean
      · rw [List.mem_reverse]
        exact clean

/-- A chunk leaves no newline waiting and completes lines without newline inside. -/
theorem feed_clean {buffer : LineBuffer} (clean : buffer.Clean) (bytes : List UInt8) :
    (buffer.feed bytes).1.Clean ∧ ∀ line ∈ (buffer.feed bytes).2, '\n' ∉ line.toList := by
  induction bytes generalizing buffer with
  | nil => exact ⟨clean, nofun⟩
  | cons byte rest inductionHypothesis =>
      by_cases ends : byte = newline
      · have emptyClean : empty.Clean := List.not_mem_nil
        obtain ⟨cleanAfter, cleanLines⟩ := inductionHypothesis emptyClean
        rw [feed, push, if_pos ends]
        refine ⟨cleanAfter, ?_⟩
        rw [List.forall_mem_cons]
        exact ⟨newline_not_mem_lineOfReversed clean, cleanLines⟩
      · have cleanNext : Clean ⟨byte :: buffer.reversed⟩ := by
          unfold Clean
          rw [List.mem_cons, not_or]
          exact ⟨Ne.symm ends, clean⟩
        rw [feed, push, if_neg ends]
        exact inductionHypothesis cleanNext

/-- The bytes that wait at the end are a line without newline inside. -/
theorem flush_clean {buffer : LineBuffer} (clean : buffer.Clean) :
    ∀ line ∈ buffer.flush, '\n' ∉ line.toList := by
  intro line flushed
  unfold flush at flushed
  split at flushed
  · cases flushed
  · rw [← Option.some.inj flushed]
    exact newline_not_mem_lineOfReversed clean

/-- When there is no last line, nothing waits. -/
theorem eq_empty_of_flush {buffer : LineBuffer} (nothing : buffer.flush = none) :
    buffer = empty := by
  unfold flush at nothing
  split at nothing
  · next isEmpty =>
      obtain ⟨reversed⟩ := buffer
      exact congrArg LineBuffer.mk (List.isEmpty_iff.mp isEmpty)
  · cases nothing

end LineBuffer
end TailView
