import TailView.Proofs.Display.PlainText
import TailView.Proofs.Escape.Stripped
import TailView.Proofs.Lines
import TailView.Proofs.Session.Views

/-!
# The lines of a printed entry

Without colours an entry is printed in as many lines as it has, each without its complete escape
sequences; behind the first one may stand a hint.  The hint completes no sequence, so a sequence
reaches the terminal only if stripping has left it in a line of the entry.
-/

namespace TailView
namespace Display

open Text Escape

variable {session : Session} {entry : Entry} {correlation : Bool}

/-! ## The hint about the counterpart -/

/-- Whether there are no control characters in a text. -/
def Printable (text : String) : Prop := ∀ c ∈ text.toList, 32 ≤ c.toNat

instance (text : String) : Decidable (Printable text) :=
  show Decidable (∀ c ∈ text.toList, 32 ≤ c.toNat) from List.decidableBAll _ _

theorem printable_append_iff {first second : String} :
    Printable (first ++ second) ↔ Printable first ∧ Printable second := by
  unfold Printable
  rw [String.toList_append, List.forall_mem_append]

theorem Printable.not_mem
    {text : String}
    {c : Char}
    (printable : Printable text)
    (control : c.toNat < 32) :
    c ∉ text.toList :=
  fun member => Nat.not_le_of_gt control (printable c member)

/-- A number is written in digits. -/
theorem printable_toString (number : Nat) : Printable (toString number) := by
  intro c member
  have isDigit : c.isDigit = true :=
    Nat.isDigit_of_mem_toDigits (b := 10) (n := number) (by decide) (by decide) (by simpa using member)
  simp only [Char.isDigit, Bool.and_eq_true, decide_eq_true_eq, ge_iff_le,
    UInt32.le_iff_toNat_le] at isDigit
  exact Nat.le_trans (by decide) isDigit.1

theorem printable_display (id : EntryId) : Printable id.display :=
  printable_append_iff.mpr ⟨by decide, printable_toString id⟩

theorem printable_correlationHint
    {hint : String}
    (given : correlationHint session entry = some hint) :
    Printable hint := by
  unfold correlationHint at given
  split at given
  · cases given
  · -- a hint is made of fixed words, the number of the request, and an id
    simp only at given
    split at given <;> cases given <;>
      simp only [printable_append_iff, printable_toString, printable_display, and_true] <;>
      decide

/-- What stands behind the first line of an entry without colours. -/
def plainHint (session : Session) (entry : Entry) (correlation : Bool) : String :=
  hintText false (if correlation then correlationHint session entry else none)

/-- Behind the first line stands nothing, or a blank and printable characters. -/
theorem plainHint_cases (session : Session) (entry : Entry) (correlation : Bool) :
    plainHint session entry correlation = "" ∨
      ∃ text, Printable text ∧
        (plainHint session entry correlation).toList = ' ' :: text.toList := by
  unfold plainHint
  cases given : if correlation then correlationHint session entry else none with
  | none => exact .inl rfl
  | some hint =>
      have fromSession : correlationHint session entry = some hint := by
        cases correlation with
        | false => cases given
        | true => exact given
      refine .inr ⟨" " ++ hint, ?_, ?_⟩
      · exact printable_append_iff.mpr ⟨by decide, printable_correlationHint fromSession⟩
      · simp [hintText, Style.paint]

/-! ## Line by line -/

/-- Stripping brings in no newline. -/
theorem newline_not_mem_strip {line : String} (absent : '\n' ∉ line.toList) :
    '\n' ∉ (strip line).toList := by
  rw [strip, String.toList_ofList]
  exact fun member => absent ((stripped_stripChars line.toList).sublist.mem member)

theorem newline_not_mem_plainHint (session : Session) (entry : Entry) (correlation : Bool) :
    '\n' ∉ (plainHint session entry correlation).toList := by
  rcases plainHint_cases session entry correlation with nothing | ⟨text, printable, hint⟩
  · rw [nothing]
    exact List.not_mem_nil
  · rw [hint, List.mem_cons, not_or]
    exact ⟨by decide, printable.not_mem (by decide)⟩

/-- Each line of an entry is printed as one line. -/
theorem lines_entryText
    {first : String}
    {rest : List String}
    (held : entry.lines = first :: rest)
    (session : Session)
    (correlation : Bool) :
    Text.lines (entryText false correlation session entry) =
      (strip first ++ plainHint session entry correlation) :: rest.map strip := by
  have absent : ∀ line ∈ first :: rest, '\n' ∉ line.toList := by
    intro line member
    rw [← held] at member
    exact newline_not_mem_of_mem_lines member
  rw [List.forall_mem_cons] at absent
  have printed : entryText false correlation session entry =
      "\n".intercalate
        ((strip first ++ plainHint session entry correlation) :: rest.map strip) := by
    unfold entryText
    rw [held, tailLine_false]
    simp [headLine, Style.paint, plainHint]
  rw [printed]
  apply lines_intercalate (List.cons_ne_nil _ _)
  rw [List.forall_mem_cons, List.forall_mem_map, String.toList_append, List.mem_append, not_or]
  exact ⟨⟨newline_not_mem_strip absent.1, newline_not_mem_plainHint session entry correlation⟩,
    fun line member => newline_not_mem_strip (absent.2 line member)⟩

/-! ## Sequences that reach the terminal -/

/-- The hint completes no sequence. -/
theorem sequenceFree_append_plainHint_iff (line : String) :
    SequenceFree (line ++ plainHint session entry correlation).toList ↔
      SequenceFree line.toList := by
  rw [String.toList_append]
  constructor
  · intro free
    exact free.of_infix (List.prefix_append _ _).isInfix
  · intro free
    rcases plainHint_cases session entry correlation with nothing | ⟨text, printable, hint⟩
    · rw [nothing]
      exact (List.append_nil line.toList).symm ▸ free
    · rw [hint]
      exact free.append_blank (printable.not_mem (by decide)) (printable.not_mem (by decide))

/-- A printed line holds a sequence exactly if stripping has left one in a line of the entry. -/
theorem sequenceFree_lines_entryText_iff
    (session : Session)
    (entry : Entry)
    (correlation : Bool) :
    (∀ printed ∈ Text.lines (entryText false correlation session entry),
        SequenceFree printed.toList) ↔
      ∀ line ∈ entry.lines, SequenceFree (strip line).toList := by
  obtain ⟨first, rest, held⟩ := List.exists_cons_of_ne_nil entry.lines_ne_nil
  rw [lines_entryText held, held, List.forall_mem_cons, List.forall_mem_cons,
    sequenceFree_append_plainHint_iff, List.forall_mem_map]

/-- A stripped line is free of sequences exactly if it stays the same when it is stripped again, and
exactly if no part of the line becomes a sequence when it is stripped; it is so if no unfinished
sequence of the line is interrupted by a complete one.  An entry puts a sequence on a terminal
without colours exactly if stripping has left one in a line of it. -/
theorem sequenceFree_strip_and_entryText
    (line : String)
    (session : Session)
    (entry : Entry)
    (correlation : Bool) :
    (SequenceFree (strip line).toList ↔ strip (strip line) = strip line) ∧
      (SequenceFree (strip line).toList ↔
        ∀ part, part <:+: line.toList → ¬IsSequence (stripChars part)) ∧
      (¬Interrupted line.toList → SequenceFree (strip line).toList) ∧
      ((∀ printed ∈ Text.lines (entryText false correlation session entry),
          SequenceFree printed.toList) ↔
        ∀ held ∈ entry.lines, SequenceFree (strip held).toList) := by
  have stripped : (strip line).toList = stripChars line.toList := by
    rw [strip, String.toList_ofList]
  refine ⟨?_, ?_, ?_, sequenceFree_lines_entryText_iff session entry correlation⟩
  · rw [← stripChars_eq_self_iff, ← String.ofList_inj, String.ofList_toList]
    rfl
  · rw [stripped]
    exact sequenceFree_stripChars_iff
  · rw [stripped]
    exact sequenceFree_stripChars

/-- A complete sequence stands inside an unfinished one.  Without it the other one is complete. -/
theorem not_sequenceFree_strip_nested :
    let line := "\x1b\x1b[0m[31mred"
    let session := (Session.ofOptions {}).run [.receive (.binary line.toUTF8.toList), .endStream]
    ¬SequenceFree (strip line).toList ∧ strip (strip line) ≠ strip line ∧
      ∃ entry ∈ session.mainView, ∃ printed ∈ Text.lines (entryText false false session entry),
        ¬SequenceFree printed.toList := by
  decide +kernel

end Display
end TailView
