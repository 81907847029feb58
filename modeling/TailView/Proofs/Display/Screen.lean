import TailView.Proofs.Display.Progress
import TailView.Proofs.Session.Visibility
import TailView.Session.Offline

/-!
# Every line is on the terminal once

After each operation the queued changes are taken and printed.  Then the lines of every entry that
is to be seen are on the terminal, each one once and in order, however its section grew and was
hidden and revealed.
-/

namespace TailView
namespace Display

open Session (Evolves Filtered Moment Ordered Pauses)

variable {session started last : Session} {terminal : Terminal} {printed : List Chunk}
  {updates : List Update}

/-- A session, the terminal on which it is shown, and all that was printed. -/
structure Screen where
  /-- The session. -/
  session : Session
  /-- The terminal. -/
  terminal : Terminal
  /-- Everything that was printed so far. -/
  printed : List Chunk

namespace Screen

/-- A new session, of which nothing is shown yet. -/
def ofOptions (options : SessionOptions) : Screen where
  session := Session.ofOptions options
  terminal := { look := plainLook }
  printed := []

/-- The screen after the changes of a moment were printed. -/
def print (screen : Screen) (moment : Moment) : Screen where
  session := moment.session
  terminal := (screen.terminal.render moment.session moment.updates).1
  printed := screen.printed ++ screen.terminal.chunks moment.session moment.updates

/-- The screen after an operation. -/
def perform (screen : Screen) (operation : Operation) : Screen :=
  screen.print (screen.session.perform operation).refresh

/-- The screen after a history. -/
def run (screen : Screen) (operations : List Operation) : Screen :=
  operations.foldl perform screen

/-- What the terminal prints in the course of a history. -/
def output (screen : Screen) : List Operation → List String
  | [] => []
  | operation :: rest =>
      let moment := (screen.session.perform operation).refresh
      (screen.terminal.render moment.session moment.updates).2 ++
        (screen.perform operation).output rest

/-- Everything that is printed is in the chunks. -/
theorem map_text_printed_run (screen : Screen) (operations : List Operation) :
    (screen.run operations).printed.map (·.text) =
      screen.printed.map (·.text) ++ screen.output operations := by
  induction operations generalizing screen with
  | nil => exact (List.append_nil _).symm
  | cons operation rest inductionHypothesis =>
      have performed : (screen.perform operation).printed.map (·.text) =
          screen.printed.map (·.text) ++
            (screen.terminal.render (screen.session.perform operation).refresh.session
              (screen.session.perform operation).refresh.updates).2 := by
        rw [perform, print, List.map_append, Terminal.map_text_chunks]
      have rest := inductionHypothesis (screen.perform operation)
      rw [performed, List.append_assoc] at rest
      exact rest

end Screen

/-! ## One batch of changes -/

/-- Every entry on show is seen exactly if the filter lets its text be seen. -/
theorem visible_of_filtered {entry : Entry} (filtered : session.Filtered)
    (member : entry ∈ session.activeView) :
    entry.visible = session.filter.isVisible entry.text := by
  apply filtered
  rw [Session.activeView_eq] at member
  split at member
  · exact List.mem_append_right _ member
  · exact List.mem_append_left _ member

namespace Progress

/-- Before the changes of a batch are printed, the entries that are still on show at its end are on
the terminal as far as they had come in before. -/
theorem start
    (progress : Progress session session terminal printed)
    (ordered : session.Ordered)
    (filtered : session.Filtered)
    (pauses : Pauses session started)
    (evolves : Evolves started last)
    (lastFiltered : last.Filtered) :
    Progress started last terminal printed where
  plain := progress.plain
  below := by
    rw [pauses.nextId_eq]
    exact progress.below
  shown := by
    intro entry member below
    obtain ⟨earlier, earlierMember, sameId, _, ⟨added, grown⟩⟩ := evolves.earlier entry member below
    rw [pauses.activeView_eq] at earlierMember
    rw [pauses.nextId_eq, ← sameId] at below
    obtain ⟨count, bound, shows, whole, remembers⟩ := progress.shown earlier earlierMember below
    rw [sameId] at shows remembers
    have sameLines : (plainLines earlier).take count = (plainLines entry).take count := by
      unfold plainLines
      rw [← grown, List.map_append, List.take_append_of_le_length]
      rw [List.length_map]
      exact bound
    refine ⟨count, ?_, sameLines ▸ shows, ?_, ?_⟩
    · rw [← grown, List.length_append]
      exact Nat.le_add_right_of_le bound
    · rintro ⟨other, otherMember, otherId, sameText⟩ visible
      rw [pauses.activeView_eq] at otherMember
      have isEarlier : other = earlier :=
        ordered.active.eq_of_id_eq otherMember earlierMember (otherId.trans sameId.symm)
      subst isEarlier
      -- the filter has not changed, so the entry was to be seen before
      have earlierVisible : other.visible = true := by
        rw [visible_of_filtered filtered otherMember, sameText, ← pauses.filter_eq,
          ← evolves.filter_eq, ← visible_of_filtered lastFiltered member]
        exact visible
      rw [whole ⟨other, otherMember, rfl, rfl⟩ earlierVisible, Entry.lines, Entry.lines, sameText]
    · intro isOpen
      rcases pauses.openSection with closed | same
      · rw [closed] at isOpen
        cases isOpen
      · exact remembers (same ▸ isOpen)

/-- The status line changes nothing about the entries on the terminal. -/
theorem status (progress : Progress session last terminal printed) (updates : List Update) :
    Progress session last (terminal.printStatus last updates).1
      (printed ++ (terminal.printStatus last updates).2.map fun text => ⟨.status, text⟩) := by
  have same : (terminal.printStatus last updates).1.look = terminal.look ∧
      (terminal.printStatus last updates).1.lastSection = terminal.lastSection := by
    unfold Terminal.printStatus
    split
    · exact ⟨rfl, rfl⟩
    · simp only
      split <;> exact ⟨rfl, rfl⟩
  refine ⟨same.1.trans progress.plain, ?_, ?_⟩
  · intro id le
    rw [chunksFor_append_status]
    exact progress.below id le
  · intro entry member below
    unfold ShownUpTo
    rw [chunksFor_append_status, same.2]
    exact progress.shown entry member below

/-- Printing the status line completes a batch. -/
theorem render
    (progress : Progress last last (terminal.printUpdates last updates).1
      (printed ++ terminal.updatesChunks last updates)) :
    Progress last last (terminal.render last updates).1
      (printed ++ terminal.chunks last updates) := by
  have after := progress.status updates
  rw [List.append_assoc] at after
  exact after

end Progress

/-! ## All batches -/

/-- A screen on which all changes were printed. -/
structure Faithful (screen : Screen) : Prop where
  /-- The views are in order. -/
  ordered : screen.session.Ordered
  /-- The filter has looked at every entry. -/
  filtered : screen.session.Filtered
  /-- All changes were taken. -/
  taken : screen.session.updates = #[]
  /-- The entries on show are on the terminal. -/
  progress : Progress screen.session screen.session screen.terminal screen.printed

namespace Faithful

variable {screen : Screen}

theorem ofOptions (options : SessionOptions) : Faithful (Screen.ofOptions options) where
  ordered := Session.ordered_ofOptions options
  filtered := nofun
  taken := rfl
  progress := ⟨rfl, fun _ _ => rfl, nofun⟩

/-- The changes of an operation are printed. -/
theorem perform (faithful : Faithful screen) (operation : Operation) :
    Faithful (screen.perform operation) := by
  have both := Session.stable_filtered.perform ⟨faithful.ordered, faithful.filtered⟩ operation
  obtain ⟨ordered, filtered⟩ := both
  refine ⟨ordered.takeUpdates, filtered, rfl, ?_⟩
  rcases Session.perform_cases faithful.ordered faithful.taken operation with
    ⟨started, updates, pauses, advances⟩ | redrawn
  · have queued : (screen.session.perform operation).updates.toList = updates := by
      rw [advances.updates_eq pauses.ordered, pauses.updates_eq]
      rfl
    have evolves := (advances.evolves pauses.ordered).takeUpdates
    have before := faithful.progress.start faithful.ordered faithful.filtered pauses evolves
      filtered
    have after := before.advance advances pauses.ordered
    have settled : Progress (screen.session.perform operation).takeUpdates _ _ _ :=
      ⟨after.plain, after.below, after.shown⟩
    rw [← queued] at settled
    exact settled.render
  · have queued : (screen.session.perform operation).updates.toList = [.redraw] := by
      rw [redrawn]
    have after : Progress _ _ _ (screen.printed ++ _) :=
      Progress.redraw faithful.progress.plain ordered.takeUpdates
    rw [← Terminal.printUpdates_singleton, ← Terminal.updatesChunks_singleton, ← queued] at after
    exact after.render

theorem run (faithful : Faithful screen) (operations : List Operation) :
    Faithful (screen.run operations) := by
  unfold Screen.run
  induction operations generalizing screen with
  | nil => exact faithful
  | cons operation rest inductionHypothesis =>
      exact inductionHypothesis (faithful.perform operation)

/-- The chunks of an entry that is to be seen are its text, each line once and in order. -/
theorem intercalate_chunksFor
    {entry : Entry}
    (faithful : Faithful screen)
    (member : entry ∈ screen.session.activeView)
    (visible : entry.visible = true) :
    chunksFor screen.printed entry.id ≠ [] ∧
      "\n".intercalate (chunksFor screen.printed entry.id) =
        plainLook.print screen.session entry := by
  obtain ⟨count, _, shows, whole, _⟩ :=
    faithful.progress.shown entry member (faithful.ordered.active.below entry member)
  have all : (plainLines entry).take count = plainLines entry := by
    apply List.take_of_length_le
    rw [length_plainLines, whole ⟨entry, member, rfl, rfl⟩ visible]
  rw [all] at shows
  refine ⟨shows.ne_nil (plainLines_ne_nil entry), ?_⟩
  rw [shows.intercalate_eq, print_plainLook]

end Faithful

/-- Whatever is done to a session and printed on the way, the chunks that were printed for an entry
which is to be seen are, since the view was last printed anew, the text that a snapshot prints. -/
theorem chunksFor_run_eq_print (options : SessionOptions) (operations : List Operation) :
    let screen := (Screen.ofOptions options).run operations
    screen.printed.map (·.text) = (Screen.ofOptions options).output operations ∧
      ∀ entry ∈ screen.session.activeView, entry.visible = true →
        chunksFor screen.printed entry.id ≠ [] ∧
          "\n".intercalate (chunksFor screen.printed entry.id) =
            plainLook.print screen.session entry := by
  intro screen
  have faithful := (Faithful.ofOptions options).run operations
  refine ⟨(Screen.ofOptions options).map_text_printed_run operations, ?_⟩
  intro entry member visible
  exact faithful.intercalate_chunksFor member visible

/-- A section that the filter lets be seen, then hides, and then lets be seen again, with a message
of the viewer in between. -/
def flickeringSection : List Operation :=
  [.setFilter "(?-u)1$|3", .receive (.binary "start\n*ERROR* 1\n".toUTF8.toList),
    .receive (.binary "\tat 2\n\t".toUTF8.toList), .note "30 s",
    .receive (.binary "at 3\n".toUTF8.toList)]

/-- The section as it is to be seen in the end. -/
def flickeredEntry : Entry :=
  { id := 1, kind := .sectionHead, severity := some .error, text := "*ERROR* 1\n\tat 2\n\tat 3" }

theorem chunksFor_run_flickeringSection :
    let screen := (Screen.ofOptions {}).run flickeringSection
    flickeredEntry ∈ screen.session.activeView ∧ flickeredEntry.visible = true ∧
      chunksFor screen.printed flickeredEntry.id = ["*ERROR* 1", "\tat 2", "\tat 3"] ∧
      "\n".intercalate (chunksFor screen.printed flickeredEntry.id) =
        plainLook.print screen.session flickeredEntry := by
  have member : flickeredEntry ∈
      ((Screen.ofOptions {}).run flickeringSection).session.activeView := by
    decide +kernel
  have visible : flickeredEntry.visible = true := rfl
  have shown := (chunksFor_run_eq_print {} flickeringSection).2 flickeredEntry member visible
  exact ⟨member, visible, by decide +kernel, shown.2⟩

end Display
end TailView
