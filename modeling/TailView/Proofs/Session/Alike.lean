import TailView.Proofs.Renumbering
import TailView.Proofs.Session.Order

/-!
# Alike sessions

Two sessions are alike if they carry the same from line to line and hold the same entries, when the
ids of each session are raised by an offset of its own and it does not matter which entries are
seen.  Whatever comes in, they stay alike: neither the filter nor the view on show nor the number
with which an entry starts decides what becomes of a line.
-/

namespace TailView

section BareViews

variable {offset : Nat} {id : EntryId} {line : String} {view : List Entry}

/-- A section grows alike with its id raised; whether it is then seen does not matter. -/
theorem map_bare_grow (filter : Filter) :
    (view.map (Timeline.changeAt id (Session.grow filter line))).map (Entry.bare offset) =
      (view.map (Entry.bare offset)).map (Timeline.changeAt (id + offset) (·.addLine line)) := by
  rw [List.map_map, List.map_map]
  have grows : ∀ entry : Entry,
      (Session.grow filter line entry).bare offset = (entry.bare offset).addLine line :=
    fun _ => rfl
  apply List.map_congr_left
  intro entry _
  exact Entry.bare_changeAt grows entry

/-- Requests are told of their answers alike with all ids raised. -/
theorem map_bare_answeredBy (answer : Entry) :
    (view.map (Scrollback.answeredBy answer)).map (Entry.bare offset) =
      (view.map (Entry.bare offset)).map (Scrollback.answeredBy (answer.raise offset)) := by
  rw [List.map_map, List.map_map]
  apply List.map_congr_left
  intro entry _
  exact Entry.bare_answeredBy answer entry

end BareViews

namespace Session

/-- Two sessions are alike if they carry the same from line to line and hold the same entries, up
to the offsets of their ids and to what is seen. -/
structure Alike (offset otherOffset : Nat) (session other : Session) : Prop where
  /-- The views of the one are in order. -/
  ordered : session.Ordered
  /-- The views of the other are in order. -/
  otherOrdered : other.Ordered
  /-- The same bytes wait for the end of their line. -/
  lines_eq : session.lines = other.lines
  /-- The same is carried from line to line. -/
  classifier_eq : session.classifier.raise offset = other.classifier.raise otherOffset
  /-- The main views hold the same entries. -/
  main_eq : session.mainView.map (Entry.bare offset) = other.mainView.map (Entry.bare otherOffset)
  /-- The views of errors hold the same entries. -/
  focus_eq :
    session.focusView.map (Entry.bare offset) = other.focusView.map (Entry.bare otherOffset)
  /-- The main views keep the same number of entries. -/
  capacity_eq : session.scrollback.capacity = other.scrollback.capacity

namespace Alike

variable {offset otherOffset : Nat} {session other last otherLast : Session}
  {entry otherEntry : Entry} {next otherNext : Classifier} {id otherId : EntryId}

theorem refl (ordered : session.Ordered) : Alike offset offset session session :=
  ⟨ordered, ordered, rfl, rfl, rfl, rfl, rfl⟩

/-! ## What comes in -/

theorem growSection
    (alike : Alike offset otherOffset session other)
    (isOpen : session.classifier.openSection = some id)
    (otherOpen : other.classifier.openSection = some otherId)
    (sameId : id + offset = otherId + otherOffset)
    (line : String) :
    Alike offset otherOffset (session.growSection id line) (other.growSection otherId line) where
  ordered := alike.ordered.growSection isOpen line
  otherOrdered := alike.otherOrdered.growSection otherOpen line
  lines_eq := by
    have kept := congrArg Surroundings.lines (surroundings_growSection session id line)
    have otherKept := congrArg Surroundings.lines (surroundings_growSection other otherId line)
    exact kept.trans (alike.lines_eq.trans otherKept.symm)
  classifier_eq := by
    rw [classifier_growSection, classifier_growSection]
    exact alike.classifier_eq
  main_eq := by
    rw [mainView_growSection alike.ordered, mainView_growSection alike.otherOrdered,
      map_bare_grow, map_bare_grow, alike.main_eq, sameId]
  focus_eq := by
    rw [focusView_growSection alike.ordered isOpen,
      focusView_growSection alike.otherOrdered otherOpen, map_bare_grow, map_bare_grow,
      alike.focus_eq, sameId]
  capacity_eq := by
    rw [capacity_eq_of_limits_eq (limits_growSection session id line),
      capacity_eq_of_limits_eq (limits_growSection other otherId line)]
    exact alike.capacity_eq

theorem enter
    (alike : Alike offset otherOffset session other)
    (handsOut : session.classifier.HandsOut entry next)
    (otherHandsOut : other.classifier.HandsOut otherEntry otherNext)
    (sameEntry : entry.raise offset = otherEntry.raise otherOffset)
    (sameNext : next.raise offset = otherNext.raise otherOffset) :
    Alike offset otherOffset (session.enter entry next) (other.enter otherEntry otherNext) := by
  -- as it is shown, the entry is the same in both sessions
  have sameBare : entry.bare offset = otherEntry.bare otherOffset :=
    congrArg Entry.revealed sameEntry
  have sameError : entry.isError = otherEntry.isError := by
    rw [← Entry.isError_raise offset entry, sameEntry, Entry.isError_raise]
  have applied : ∀ (filter : Filter) (taken : Entry) (raised : Nat),
      (filter.apply taken).bare raised = taken.bare raised := fun _ _ _ => rfl
  have sameCapacity := alike.capacity_eq
  refine ⟨alike.ordered.enter handsOut, alike.otherOrdered.enter otherHandsOut, ?_, ?_, ?_, ?_, ?_⟩
  · have kept := congrArg Surroundings.lines (surroundings_enter session entry next)
    have otherKept := congrArg Surroundings.lines (surroundings_enter other otherEntry otherNext)
    exact kept.trans (alike.lines_eq.trans otherKept.symm)
  · rw [classifier_enter, classifier_enter]
    exact sameNext
  · rw [mainView_enter alike.ordered handsOut, mainView_enter alike.otherOrdered otherHandsOut,
      map_rtake, map_rtake, List.map_append, List.map_append, map_bare_answeredBy,
      map_bare_answeredBy, alike.main_eq, sameEntry, sameCapacity, List.map_singleton,
      List.map_singleton, applied, applied, sameBare]
  · rw [focusView_enter, focusView_enter, List.map_append, List.map_append, alike.focus_eq,
      ← sameError]
    split
    · rw [List.map_singleton, List.map_singleton, applied, applied, sameBare]
    · rfl
  · rw [capacity_eq_of_limits_eq (limits_enter session entry next),
      capacity_eq_of_limits_eq (limits_enter other otherEntry otherNext)]
    exact sameCapacity

/-- A line continues the open sections of both sessions, or it is filed in both. -/
theorem addLine (alike : Alike offset otherOffset session other) (line : String) :
    Alike offset otherOffset (session.addLine line) (other.addLine line) := by
  have sameContinued : (session.classifier.continued? line).map (· + offset) =
      (other.classifier.continued? line).map (· + otherOffset) := by
    rw [← Classifier.continued?_raise, ← Classifier.continued?_raise, alike.classifier_eq]
  cases found : session.classifier.continued? line with
  | some id =>
      rw [found, Option.map_some, eq_comm, Option.map_eq_some_iff] at sameContinued
      obtain ⟨otherId, otherFound, sameId⟩ := sameContinued
      rw [addLine_of_continued found, addLine_of_continued otherFound]
      exact alike.growSection (Classifier.continued?_eq_some_iff.mp found).2
        (Classifier.continued?_eq_some_iff.mp otherFound).2 sameId.symm line
  | none =>
      rw [found, Option.map_none, eq_comm, Option.map_eq_none_iff] at sameContinued
      have sameFiled : (session.classifier.raise offset).classifyFresh line =
          (other.classifier.raise otherOffset).classifyFresh line :=
        congrArg (Classifier.classifyFresh · line) alike.classifier_eq
      rw [Classifier.classifyFresh_raise, Classifier.classifyFresh_raise, Prod.mk.injEq]
        at sameFiled
      rw [addLine_of_fresh found, addLine_of_fresh sameContinued]
      exact alike.enter (session.classifier.classifyFresh_files line).toHandsOut
        (other.classifier.classifyFresh_files line).toHandsOut sameFiled.1 sameFiled.2

theorem foldl_addLine (alike : Alike offset otherOffset session other) (lines : List String) :
    Alike offset otherOffset (lines.foldl Session.addLine session)
      (lines.foldl Session.addLine other) := by
  induction lines generalizing session other with
  | nil => exact alike
  | cons line rest inductionHypothesis => exact inductionHypothesis (alike.addLine line)

theorem note (alike : Alike offset otherOffset session other) (text : String) :
    Alike offset otherOffset (session.note text) (other.note text) := by
  have sameInfo : (session.classifier.raise offset).info text =
      (other.classifier.raise otherOffset).info text :=
    congrArg (Classifier.info · text) alike.classifier_eq
  rw [Classifier.info_raise, Classifier.info_raise, Prod.mk.injEq] at sameInfo
  exact alike.enter (session.classifier.info_handsOut text) (other.classifier.info_handsOut text)
    sameInfo.1 sameInfo.2

/-- What surrounds the views may change, as long as the same bytes wait. -/
theorem around
    (alike : Alike offset otherOffset session other)
    (same : SameViews session last)
    (otherSame : SameViews other otherLast)
    (sameLines : last.lines = otherLast.lines) :
    Alike offset otherOffset last otherLast := by
  have ordered := stable_ordered.around alike.ordered same
  have otherOrdered := stable_ordered.around alike.otherOrdered otherSame
  refine ⟨ordered, otherOrdered, sameLines, ?_, ?_, ?_, ?_⟩
  · rw [same.classifier, otherSame.classifier]
    exact alike.classifier_eq
  · unfold mainView
    rw [same.scrollback, otherSame.scrollback]
    exact alike.main_eq
  · unfold focusView
    rw [same.focus, otherSame.focus]
    exact alike.focus_eq
  · rw [same.scrollback, otherSame.scrollback]
    exact alike.capacity_eq

theorem receive (alike : Alike offset otherOffset session other) (payload : Payload) :
    Alike offset otherOffset (session.receive payload) (other.receive payload) := by
  cases payload with
  | binary bytes =>
      rw [Session.receive, Session.receive, ← alike.lines_eq]
      have buffered : Alike offset otherOffset
          { session with lines := (session.lines.feed bytes).1 }
          { other with lines := (session.lines.feed bytes).1 } :=
        alike.around ⟨rfl, rfl, rfl, rfl⟩ ⟨rfl, rfl, rfl, rfl⟩ rfl
      exact buffered.foldl_addLine (session.lines.feed bytes).2
  | text notice =>
      rw [Session.receive, Session.receive]
      split
      · exact alike
      · exact alike.note notice
  | unsupported description => exact alike

theorem endStream (alike : Alike offset otherOffset session other) :
    Alike offset otherOffset session.endStream other.endStream := by
  unfold Session.endStream
  rw [← alike.lines_eq]
  split
  · next line _ =>
      have emptied : Alike offset otherOffset { session with lines := .empty }
          { other with lines := .empty } :=
        alike.around ⟨rfl, rfl, rfl, rfl⟩ ⟨rfl, rfl, rfl, rfl⟩ rfl
      exact emptied.addLine line
  · exact alike

/-! ## What starts anew -/

theorem sameRule (alike : Alike offset otherOffset session other) :
    session.classifier.rule = other.classifier.rule := by
  have raised := congrArg Classifier.rule alike.classifier_eq
  exact raised

theorem sameNext (alike : Alike offset otherOffset session other) :
    session.classifier.nextId + offset = other.classifier.nextId + otherOffset := by
  have raised := congrArg Classifier.nextId alike.classifier_eq
  exact raised

theorem resetStream (alike : Alike offset otherOffset session other) :
    Alike offset otherOffset session.resetStream other.resetStream where
  ordered := stable_ordered.resetStream session alike.ordered
  otherOrdered := stable_ordered.resetStream other alike.otherOrdered
  lines_eq := rfl
  classifier_eq := Classifier.raise_reset_eq alike.sameRule alike.sameNext
  main_eq := alike.main_eq
  focus_eq := alike.focus_eq
  capacity_eq := alike.capacity_eq

/-- Sessions that may be anything are alike when their views are emptied: all that is left of what
happened before is the next id. -/
theorem of_resetView
    (ordered : session.Ordered)
    (otherOrdered : other.Ordered)
    (sameRule : session.classifier.rule = other.classifier.rule)
    (sameNext : session.classifier.nextId + offset = other.classifier.nextId + otherOffset)
    (sameCapacity : session.scrollback.capacity = other.scrollback.capacity) :
    Alike offset otherOffset session.resetView other.resetView where
  ordered := stable_ordered.resetView session ordered
  otherOrdered := stable_ordered.resetView other otherOrdered
  lines_eq := rfl
  classifier_eq := Classifier.raise_reset_eq sameRule sameNext
  main_eq := rfl
  focus_eq := rfl
  capacity_eq := sameCapacity

/-- Sessions that may be anything are alike when the same file is opened, if the room for it is
the same. -/
theorem of_openFile
    (ordered : session.Ordered)
    (otherOrdered : other.Ordered)
    (sameRule : session.classifier.rule = other.classifier.rule)
    (sameNext : session.classifier.nextId + offset = other.classifier.nextId + otherOffset)
    (sameLength : session.bytesPerLine = other.bytesPerLine)
    (file : String)
    (amount : Amount) :
    Alike offset otherOffset (session.openFile file amount) (other.openFile file amount) where
  ordered := stable_ordered.openFile ordered file amount
  otherOrdered := stable_ordered.openFile otherOrdered file amount
  lines_eq := rfl
  classifier_eq := Classifier.raise_reset_eq sameRule sameNext
  main_eq := rfl
  focus_eq := rfl
  capacity_eq := congrArg (fun length => max (amount.capacity length) 1) sameLength

/-! ## What only concerns the look -/

/-- A session stays alike when its filter is set. -/
theorem setFilter (alike : Alike offset otherOffset session other) (text : String) :
    Alike offset otherOffset (session.setFilter text) other where
  ordered := stable_ordered.setFilter session text alike.ordered
  otherOrdered := alike.otherOrdered
  lines_eq := alike.lines_eq
  classifier_eq := alike.classifier_eq
  main_eq := by
    rw [mainView_setFilter, List.map_map]
    exact alike.main_eq
  focus_eq := by
    rw [focusView_setFilter, List.map_map]
    exact alike.focus_eq
  capacity_eq := alike.capacity_eq

/-- A session stays alike when the other view is shown. -/
theorem toggleErrorFocus (alike : Alike offset otherOffset session other) :
    Alike offset otherOffset session.toggleErrorFocus other where
  ordered := stable_ordered.toggleErrorFocus session alike.ordered
  otherOrdered := alike.otherOrdered
  lines_eq := alike.lines_eq
  classifier_eq := alike.classifier_eq
  main_eq := alike.main_eq
  focus_eq := alike.focus_eq
  capacity_eq := alike.capacity_eq

end Alike
end Session
end TailView
