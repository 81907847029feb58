import TailView.Display.Terminal
import TailView.Text.Split

/-!
# Entries as plain text

Without colours and without hints about counterparts an entry is printed line by line, each line
without its escape sequences.  A section that grows is printed in several chunks, which joined with
newlines are the text that it would have in one.
-/

namespace TailView

/-- Every entry has a line. -/
theorem Entry.lines_ne_nil (entry : Entry) : entry.lines ≠ [] := by
  unfold lines Text.lines
  rw [ne_eq, List.map_eq_nil_iff]
  exact Text.pieces_ne_nil _ _

namespace Display

open Text

/-- Text without colours and hints. -/
def plainLook : Look := ⟨.text, false, false⟩

/-- The lines of an entry as they are printed without colours. -/
def plainLines (entry : Entry) : List String := entry.lines.map Escape.strip

@[simp] theorem length_plainLines (entry : Entry) :
    (plainLines entry).length = entry.lines.length :=
  List.length_map _

theorem plainLines_ne_nil (entry : Entry) : plainLines entry ≠ [] := by
  rw [plainLines, ne_eq, List.map_eq_nil_iff]
  exact entry.lines_ne_nil

theorem tailLine_false (entry : Entry) : tailLine false entry = Escape.strip := by
  funext line
  simp [tailLine, Style.paint]

/-- An entry is printed line by line. -/
theorem print_plainLook (session : Session) (entry : Entry) :
    plainLook.print session entry = "\n".intercalate (plainLines entry) := by
  unfold plainLook Look.print entryText plainLines
  cases held : entry.lines with
  | nil => rfl
  | cons first rest =>
      rw [tailLine_false]
      simp [headLine, hintText, Style.paint]

/-! ## Lines in several chunks -/

/-- Chunks that show some lines, one or more in each chunk. -/
def Shows (chunks lines : List String) : Prop :=
  ∃ groups : List (List String),
    (∀ group ∈ groups, group ≠ []) ∧ groups.flatten = lines ∧
      groups.map ("\n".intercalate ·) = chunks

namespace Shows

variable {chunks lines : List String}

theorem nil : Shows [] [] := ⟨[], nofun, rfl, rfl⟩

/-- Lines in one more chunk. -/
theorem append_chunk {added : List String} (shows : Shows chunks lines) (nonempty : added ≠ []) :
    Shows (chunks ++ ["\n".intercalate added]) (lines ++ added) := by
  obtain ⟨groups, nonemptyGroups, rfl, rfl⟩ := shows
  refine ⟨groups ++ [added], ?_, ?_, ?_⟩
  · rw [List.forall_mem_append, List.forall_mem_singleton]
    exact ⟨nonemptyGroups, nonempty⟩
  · simp
  · simp

/-- Lines in a chunk each. -/
theorem append_lines (shows : Shows chunks lines) (added : List String) :
    Shows (chunks ++ added) (lines ++ added) := by
  induction added generalizing chunks lines with
  | nil =>
      rw [List.append_nil, List.append_nil]
      exact shows
  | cons line rest inductionHypothesis =>
      have first := shows.append_chunk (List.cons_ne_nil line [])
      rw [String.intercalate_singleton] at first
      rw [List.append_cons chunks, List.append_cons lines]
      exact inductionHypothesis first

/-- Joined with newlines the chunks are the lines joined with newlines. -/
theorem intercalate_eq (shows : Shows chunks lines) :
    "\n".intercalate chunks = "\n".intercalate lines := by
  obtain ⟨groups, nonempty, rfl, rfl⟩ := shows
  induction groups with
  | nil => rfl
  | cons group rest inductionHypothesis =>
      rw [List.forall_mem_cons] at nonempty
      rw [List.map_cons, List.flatten_cons]
      cases rest with
      | nil => simp
      | cons second others =>
          have secondNonempty := (List.forall_mem_cons.mp nonempty.2).1
          have restNonempty : (second :: others).flatten ≠ [] := by
            rw [List.flatten_cons]
            exact List.append_ne_nil_of_left_ne_nil secondNonempty _
          have chunksNonempty : (second :: others).map ("\n".intercalate ·) ≠ [] := by
            simp
          rw [String.intercalate_cons_of_ne_nil chunksNonempty,
            String.intercalate_append_of_ne_nil nonempty.1 restNonempty,
            inductionHypothesis nonempty.2]

/-- Lines are shown in some chunk. -/
theorem ne_nil (shows : Shows chunks lines) (nonempty : lines ≠ []) : chunks ≠ [] := by
  obtain ⟨groups, _, rfl, rfl⟩ := shows
  rw [ne_eq, List.map_eq_nil_iff]
  rintro rfl
  exact nonempty rfl

/-- Where nothing is shown there is no chunk. -/
theorem eq_nil (shows : Shows chunks []) : chunks = [] := by
  obtain ⟨groups, nonempty, flattened, rfl⟩ := shows
  rw [List.map_eq_nil_iff, List.eq_nil_iff_forall_not_mem]
  intro group member
  exact nonempty group member (List.flatten_eq_nil_iff.mp flattened group member)

end Shows

/-! ## What the terminal prints -/

namespace Terminal

variable {terminal : Terminal} {session : Session} {entry : Entry} {chunks : List String}
  {count : Nat}

/-- How many lines of an entry are shown when it is printed as a new one. -/
def shownLines (entry : Entry) : Nat := if entry.visible then entry.lines.length else 0

theorem shownLines_le (entry : Entry) : shownLines entry ≤ entry.lines.length := by
  unfold shownLines
  split
  · exact Nat.le_refl _
  · exact Nat.zero_le _

/-- The terminal remembers the section that it prints. -/
theorem lastSection_printEntry (terminal : Terminal) (session : Session) (entry : Entry) :
    (terminal.printEntry session entry).1.lastSection =
      if entry.isSection then some (entry.id, shownLines entry) else terminal.lastSection := by
  unfold printEntry shownLines
  simp only
  split <;> rfl

theorem chunks_printEntry (terminal : Terminal) (session : Session) (entry : Entry) :
    (terminal.printEntry session entry).2 =
      if entry.visible then [terminal.look.print session entry] else [] := by
  unfold printEntry
  cases entry.isSection <;> rfl

/-- An entry that is printed as a new one is shown as a whole or not at all. -/
theorem shows_printEntry
    (plain : terminal.look = plainLook)
    (session : Session)
    (entry : Entry) :
    Shows (terminal.printEntry session entry).2 ((plainLines entry).take (shownLines entry)) := by
  rw [chunks_printEntry, plain, print_plainLook]
  unfold shownLines
  split
  · rw [List.take_of_length_le (Nat.le_of_eq (length_plainLines entry))]
    exact Shows.nil.append_chunk (plainLines_ne_nil entry)
  · exact Shows.nil

theorem printGrowth_of_hidden (hidden : entry.visible = false) (session : Session) :
    terminal.printGrowth session entry = (terminal, []) := by
  unfold printGrowth
  rw [hidden]
  rfl

/-- Of a section that is remembered the lines are printed that are not on the terminal. -/
theorem printGrowth_of_visible
    (plain : terminal.look = plainLook)
    (remembered : terminal.lastSection = some (entry.id, count))
    (visible : entry.visible = true)
    (session : Session) :
    terminal.printGrowth session entry =
      ({ terminal with lastSection := some (entry.id, entry.lines.length) },
        if count = 0 then ["\n".intercalate (plainLines entry)]
        else (plainLines entry).drop count) := by
  unfold printGrowth
  rw [remembered, visible, plain, print_plainLook]
  simp [plainLook, plainLines, tailLine_false]

/-- When a section has grown, exactly its lines that are not on the terminal are printed, if it is
to be seen. -/
theorem shows_printGrowth
    (plain : terminal.look = plainLook)
    (session : Session)
    (remembered : terminal.lastSection = some (entry.id, count))
    (shows : Shows chunks ((plainLines entry).take count))
    (bound : count ≤ entry.lines.length) :
    ∃ total ≤ entry.lines.length,
      Shows (chunks ++ (terminal.printGrowth session entry).2) ((plainLines entry).take total) ∧
        (entry.visible = true → total = entry.lines.length) ∧
        (terminal.printGrowth session entry).1.lastSection = some (entry.id, total) := by
  cases visible : entry.visible with
  | false =>
      rw [printGrowth_of_hidden visible, List.append_nil]
      exact ⟨count, bound, shows, nofun, remembered⟩
  | true =>
      rw [printGrowth_of_visible plain remembered visible]
      refine ⟨entry.lines.length, Nat.le_refl _, ?_, fun _ => rfl, rfl⟩
      rw [List.take_of_length_le (Nat.le_of_eq (length_plainLines entry))]
      simp only
      split
      · next nothing =>
          rw [nothing, List.take_zero] at shows
          rw [shows.eq_nil]
          exact Shows.nil.append_chunk (plainLines_ne_nil entry)
      · have added := shows.append_lines ((plainLines entry).drop count)
        rw [List.take_append_drop] at added
        exact added

end Terminal
end Display
end TailView
