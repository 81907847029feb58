import TailView.Proofs.Display.EntryLines
import TailView.Proofs.Escape.Removal

/-!
# Stripping line by line

What is left of a line is what one reading from the left keeps, and what removing all matches of the
pattern for sequences leaves.  An entry is stripped line by line, so what is not complete in one
line takes nothing away from another.
-/

namespace TailView
namespace Display

open Text Escape Pattern

variable {session : Session} {entry : Entry}

/-- Stripping keeps what a reading from the left keeps. -/
theorem stripped_iff_eq_strip {line : String} {kept : List Char} :
    Stripped line.toList kept ↔ kept = (strip line).toList := by
  rw [strip, String.toList_ofList]
  exact ⟨Stripped.eq_stripChars, fun same => same ▸ stripped_stripChars line.toList⟩

/-- Only a line without sequences stays as it is. -/
theorem strip_eq_self_iff {line : String} : strip line = line ↔ SequenceFree line.toList := by
  rw [← stripChars_eq_self_iff, strip, ← String.toList_inj, String.toList_ofList]

/-- Without hints an entry is printed as its stripped lines. -/
theorem lines_entryText_eq_map_strip (session : Session) (entry : Entry) :
    Text.lines (entryText false false session entry) = entry.lines.map strip := by
  obtain ⟨first, rest, held⟩ := List.exists_cons_of_ne_nil entry.lines_ne_nil
  have noHint : plainHint session entry false = "" := rfl
  rw [lines_entryText held, held, noHint, String.append_empty, List.map_cons]

/-- A section that grows is printed with more lines, and the lines before are printed as before. -/
theorem lines_entryText_addLine (session : Session) (entry : Entry) (more : String) :
    Text.lines (entryText false false session (entry.addLine more)) =
      Text.lines (entryText false false session entry) ++ (Text.lines more).map strip := by
  rw [lines_entryText_eq_map_strip, lines_entryText_eq_map_strip, ← List.map_append]
  exact congrArg (List.map strip) (Text.lines_append_newline entry.text more)

/-- Stripping a line removes all matches of the pattern for sequences, which is what reading it once
from the left keeps; so it adds and moves nothing, and it changes a line exactly if there is a
complete sequence in it.  Without colours and hints an entry is printed in as many lines as it has,
each stripped for itself, and lines that are added change nothing about the lines before. -/
theorem strip_line_by_line
    (line more : String)
    (session : Session)
    (entry : Entry) :
    (∀ kept, Stripped line.toList kept ↔ kept = (strip line).toList) ∧
      Compiled.ofPattern false sequencePattern =
        .ok ⟨sequenceExpr, Marked.ofExpr sequenceExpr⟩ ∧
      (∀ kept, sequenceExpr.Removed [] line.toList kept ↔ kept = (strip line).toList) ∧
      (strip line).toList.Sublist line.toList ∧
      (strip line = line ↔ SequenceFree line.toList) ∧
      (esc ∉ line.toList → strip line = line) ∧
      (Text.lines (entryText false false session entry)).length = entry.lines.length ∧
      Text.lines (entryText false false session entry) = entry.lines.map strip ∧
      Text.lines (entryText false false session (entry.addLine more)) =
        Text.lines (entryText false false session entry) ++ (Text.lines more).map strip := by
  refine ⟨fun _ => stripped_iff_eq_strip, ofPattern_sequencePattern, fun kept => ?_,
    (stripped_iff_eq_strip.mpr rfl).sublist, strip_eq_self_iff, fun absent => ?_, ?_,
    lines_entryText_eq_map_strip session entry, lines_entryText_addLine session entry more⟩
  · rw [removed_iff_stripped, stripped_iff_eq_strip]
  · rw [strip, stripChars_of_not_mem absent, String.ofList_toList]
  · rw [lines_entryText_eq_map_strip, List.length_map]

/-- The end of a system command in the next line does not complete it. -/
theorem strip_line_by_line_unfinishedCommand :
    let entry : Entry :=
      { id := 1, kind := .sectionHead, text := "ERROR: \x1b]0;title\n  at a\x07 \x1b[31mred" }
    esc ∉ "  at b".toList ∧ strip "  at b" = "  at b" ∧
      Text.lines (entryText false false (.ofOptions {}) (entry.addLine "  at b")) =
        ["ERROR: \x1b]0;title", "  at a\x07 red", "  at b"] := by
  intro entry
  have noEsc : esc ∉ "  at b".toList := by decide
  obtain ⟨-, -, -, -, -, unchanged, -, lineByLine, more⟩ :=
    strip_line_by_line "  at b" "  at b" (.ofOptions {}) entry
  refine ⟨noEsc, unchanged noEsc, ?_⟩
  rw [more, lineByLine]
  decide +kernel

end Display
end TailView
