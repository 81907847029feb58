import TailView.Proofs.Session.Announcing
import TailView.Proofs.Session.Errors
import TailView.Proofs.Session.Lines
import TailView.Proofs.Session.Visibility

/-!
# Every change on show is announced

The queued changes are all that the screen hears of, so whatever changes in the view on show has to
be among them.  An operation that turns the view over asks for it to be shown anew.  Every other
operation announces each entry that comes in and each section that grows, and leaves the rest of
what is on show as it was.
-/

namespace TailView

/-- Whether an operation switches between the views. -/
def Operation.switchesView : Operation → Bool
  | .toggleErrorFocus | .handle .toggleErrorFocus _ => true
  | _ => false

namespace Session

variable {session last : Session} {lines : List String} {passed : List Session}

/-- Whether an operation turns the view on show over: it shows the other one, empties it, or sets
the filter. -/
def turnsOver (session : Session) (operation : Operation) : Bool :=
  operation.switchesView || session.emptiesViews operation ||
    (session.filterText? operation).isSome

/-- The sessions that an operation passes through: bytes are taken in line by line. -/
def stages (session : Session) : Operation → List Session
  | .receive (.binary bytes) =>
      (session.lines.feed bytes).2.inits.map fun lines =>
        lines.foldl addLine { session with lines := (session.lines.feed bytes).1 }
  | operation => [session.perform operation]

/-- An operation has turned the view on show over and has asked for it to be shown anew, or it has
announced all that changed. -/
def Reports (turned : Bool) (session : Session) (lines : List String) (passed : List Session)
    (last : Session) : Prop :=
  if turned then last.updates = #[.redraw] else Announcing session lines passed last

theorem reports_redraw (redrawn : last.updates = #[.redraw]) :
    Reports true session lines passed last :=
  redrawn

theorem reports_of_pauses
    (ordered : session.Ordered)
    (pauses : Pauses session last)
    (focused_eq : last.focus.active = session.focus.active) :
    Reports false session [] [last] last := by
  apply Announcing.of_pauses ordered pauses focused_eq
  intro stage isLast
  rw [List.mem_singleton.mp isLast]
  exact pauses.activeView_eq

/-- What only changes around the views needs not be announced. -/
theorem reports_of_sameViews
    (ordered : session.Ordered)
    (same : SameViews session last)
    (silent : last.updates = #[]) :
    Reports false session [] [last] last :=
  reports_of_pauses ordered (pauses_of_sameViews ordered same silent)
    (congrArg ErrorFocus.active same.focus)

/-- A session in which nothing has been announced yet. -/
theorem announcing_nothing
    {start : Session}
    (ordered : session.Ordered)
    (same : SameViews session start)
    (silent : start.updates = #[]) :
    Announcing session [] [] start :=
  .of_pauses ordered (pauses_of_sameViews ordered same silent)
    (congrArg ErrorFocus.active same.focus) fun _ isStage => absurd isStage List.not_mem_nil

theorem reports_note
    {start : Session}
    (ordered : session.Ordered)
    (same : SameViews session start)
    (silent : start.updates = #[])
    (text : String) :
    Reports false session [] [start.note text] (start.note text) :=
  (announcing_nothing ordered same silent).note text

theorem reports_reload
    {start : Session}
    (ordered : session.Ordered)
    (same : SameViews session start)
    (silent : start.updates = #[]) :
    Reports start.selection.isSome session [] [start.reload] start.reload := by
  unfold Session.reload
  cases start.selection with
  | some selection => exact reports_redraw (updates_openFile silent _ _)
  | none => exact reports_of_sameViews ordered same silent

theorem reports_stop (ordered : session.Ordered) (taken : session.updates = #[]) :
    Reports false session [] [session.stop] session.stop :=
  reports_of_pauses ordered ⟨stable_ordered.stop ordered, rfl, rfl, rfl, .inl rfl, taken⟩ rfl

theorem reports_toggleFollow (ordered : session.Ordered) (taken : session.updates = #[]) :
    Reports (!session.follow && session.selection.isSome) session [] [session.toggleFollow]
      session.toggleFollow := by
  unfold Session.toggleFollow
  cases session.follow with
  | true => exact reports_stop ordered taken
  | false =>
      have wished : SameViews session { session with follow := true } := ⟨rfl, rfl, rfl, rfl⟩
      exact reports_reload ordered wished taken

theorem reports_connected (ordered : session.Ordered) (taken : session.updates = #[]) :
    Reports (session.connection.openedBefore && session.connection.current.isSome) session []
      [session.connected] session.connected := by
  unfold Session.connected
  cases session.connection.openedBefore && session.connection.current.isSome with
  | true => exact reports_redraw (push_redraw taken)
  | false => exact reports_of_sameViews ordered ⟨rfl, rfl, rfl, rfl⟩ taken

theorem reports_pollFilter
    (ordered : session.Ordered)
    (taken : session.updates = #[])
    (now : Nat) :
    Reports (session.typed.poll now).1.isSome session [] [session.pollFilter now]
      (session.pollFilter now) := by
  unfold Session.pollFilter
  split
  · next text typed due =>
      rw [due]
      exact reports_redraw (updates_setFilter taken text)
  · next typed notDue =>
      rw [notDue]
      exact reports_of_sameViews ordered ⟨rfl, rfl, rfl, rfl⟩ taken

theorem reports_receive
    (ordered : session.Ordered)
    (clean : session.lines.Clean)
    (taken : session.updates = #[])
    (payload : Payload) :
    Reports false session (session.lines.absorb (.receive payload)).2
      (session.stages (.receive payload)) (session.receive payload) := by
  cases payload with
  | binary bytes =>
      have buffered : Reports false session []
          [{ session with lines := (session.lines.feed bytes).1 }]
          { session with lines := (session.lines.feed bytes).1 } :=
        reports_of_sameViews ordered ⟨rfl, rfl, rfl, rfl⟩ taken
      exact Announcing.foldl_addLine buffered (LineBuffer.feed_clean clean bytes).2
  | text notice =>
      change Reports false session [] [session.receive (.text notice)] _
      rw [Session.receive]
      split
      · exact reports_of_sameViews ordered ⟨rfl, rfl, rfl, rfl⟩ taken
      · exact reports_note ordered ⟨rfl, rfl, rfl, rfl⟩ taken notice
  | unsupported description => exact reports_of_sameViews ordered ⟨rfl, rfl, rfl, rfl⟩ taken

theorem reports_endStream
    (ordered : session.Ordered)
    (clean : session.lines.Clean)
    (taken : session.updates = #[]) :
    Reports false session session.lines.flush.toList [session.endStream] session.endStream := by
  unfold Session.endStream
  cases flushed : session.lines.flush with
  | some line =>
      have emptied : Announcing session [] [] { session with lines := .empty } :=
        announcing_nothing ordered ⟨rfl, rfl, rfl, rfl⟩ taken
      exact emptied.addLine (LineBuffer.flush_clean clean line flushed)
  | none => exact reports_of_sameViews ordered ⟨rfl, rfl, rfl, rfl⟩ taken

/-- An operation that neither switches the view nor sets the filter turns the view over only if it
empties it. -/
theorem turnsOver_eq_emptiesViews
    {operation : Operation}
    (stays : operation.switchesView = false)
    (noText : session.filterText? operation = none) :
    session.turnsOver operation = session.emptiesViews operation := by
  rw [turnsOver, stays, noText, Bool.false_or, Option.isSome_none, Bool.or_false]

theorem reports_handle
    (ordered : session.Ordered)
    (taken : session.updates = #[])
    (control : Control)
    (now : Nat) :
    Reports (session.turnsOver (.handle control now)) session [] [session.handle control now]
      (session.handle control now) := by
  cases control with
  | openFile file amount => exact reports_redraw (updates_openFile taken file amount)
  | toggleErrorFocus => exact reports_redraw (updates_toggleErrorFocus taken)
  | reload =>
      rw [turnsOver_eq_emptiesViews rfl rfl]
      exact reports_reload ordered ⟨rfl, rfl, rfl, rfl⟩ taken
  | toggleFollow =>
      rw [turnsOver_eq_emptiesViews rfl rfl]
      exact reports_toggleFollow ordered taken
  | stop => exact reports_stop ordered taken
  | filter | quit => exact reports_of_sameViews ordered ⟨rfl, rfl, rfl, rfl⟩ taken

/-- Every operation either turns the view over and asks for it to be shown anew, or announces what
it changes. -/
theorem reports_perform
    (ordered : session.Ordered)
    (clean : session.lines.Clean)
    (taken : session.updates = #[])
    (operation : Operation) :
    Reports (session.turnsOver operation) session (session.lines.absorb operation).2
      (session.stages operation) (session.perform operation) := by
  cases operation with
  | openFile file amount => exact reports_redraw (updates_openFile taken file amount)
  | toggleErrorFocus => exact reports_redraw (updates_toggleErrorFocus taken)
  | setFilter text => exact reports_redraw (updates_setFilter taken text)
  | pollFilter now => exact reports_pollFilter ordered taken now
  | reload =>
      rw [turnsOver_eq_emptiesViews rfl rfl]
      exact reports_reload ordered ⟨rfl, rfl, rfl, rfl⟩ taken
  | toggleFollow =>
      rw [turnsOver_eq_emptiesViews rfl rfl]
      exact reports_toggleFollow ordered taken
  | connected =>
      rw [turnsOver_eq_emptiesViews rfl rfl]
      exact reports_connected ordered taken
  | stop => exact reports_stop ordered taken
  | handle control now => exact reports_handle ordered taken control now
  | receive payload => exact reports_receive ordered clean taken payload
  | endStream => exact reports_endStream ordered clean taken
  | note text => exact reports_note ordered ⟨rfl, rfl, rfl, rfl⟩ taken text
  | disconnected reason =>
      have closed : SameViews session { session with connection := session.connection.closed } :=
        ⟨rfl, rfl, rfl, rfl⟩
      exact reports_note ordered closed taken _
  | takeUpdates => exact reports_of_sameViews ordered ⟨rfl, rfl, rfl, rfl⟩ rfl
  | typeFilter | dial | heartbeat | takeOutbound =>
      exact reports_of_sameViews ordered ⟨rfl, rfl, rfl, rfl⟩ taken

/-! ## What the screen can rely on -/

/-- The changes that an operation announces are all that it changes on show. -/
structure Announced (session : Session) (operation : Operation) : Prop where
  /-- The same view is on show. -/
  focused_eq : (session.perform operation).focus.active = session.focus.active
  /-- The ids announced to be new increase. -/
  increasing : (session.perform operation).appendedIds.Pairwise (· < ·)
  /-- They are those of the entries that came on show, also of those that are gone again. -/
  mem_appendedIds_iff : ∀ id, id ∈ (session.perform operation).appendedIds ↔
    (∃ stage ∈ session.stages operation, id ∈ stage.shownIds) ∧ id ∉ session.shownIds
  /-- Of the entries that were on show the newest ones stay, in the same order. -/
  suffix : (session.perform operation).shownIds.filter (· ∈ session.shownIds) <:+
    session.shownIds
  /-- A change of the text or of whether it is seen is announced for each of them. -/
  changed : ∀ old ∈ session.activeView, ∀ entry ∈ (session.perform operation).activeView,
    old.id = entry.id → old.text ≠ entry.text ∨ old.visible ≠ entry.visible →
      entry.id ∈ (session.perform operation).patchedIds
  /-- What is announced to have grown is a section on show that has grown by lines of the
  operation. -/
  grownAt : ∀ id ∈ (session.perform operation).patchedIds, ∃ stage ∈ session.stages operation,
    ∃ entry ∈ stage.activeView, entry.id = id ∧
      Grown session (session.lines.absorb operation).2 entry
  /-- If it is still on show in the end, it ends with one of these lines. -/
  grown : ∀ entry ∈ (session.perform operation).activeView,
    entry.id ∈ (session.perform operation).patchedIds →
      Grown session (session.lines.absorb operation).2 entry
  /-- An entry for which nothing is announced was on show before and has not changed. -/
  unchanged : ∀ entry ∈ (session.perform operation).activeView,
    entry.id ∉ (session.perform operation).appendedIds →
    entry.id ∉ (session.perform operation).patchedIds →
      ∃ old ∈ session.activeView, old.id = entry.id ∧ old.kind = entry.kind ∧
        old.severity = entry.severity ∧ old.text = entry.text ∧ old.visible = entry.visible

/-- An entry that was on show is not announced to be new. -/
theorem Announcing.not_mem_shownIds
    {id : EntryId}
    (announcing : Announcing session lines passed last)
    (appended : id ∈ last.appendedIds) :
    id ∉ session.shownIds := by
  intro shown
  obtain ⟨old, wasShown, rfl⟩ := List.mem_map.mp shown
  have below := announcing.startOrdered.active.below old wasShown
  exact absurd below (Nat.not_lt.mpr (announcing.arrives.recent old.id appended))

/-- Of the entries that were on show the newest ones stay. -/
theorem Announcing.suffix (announcing : Announcing session lines passed last) :
    last.shownIds.filter (· ∈ session.shownIds) <:+ session.shownIds := by
  have kept := announcing.arrives.suffix.filter (· ∈ session.shownIds)
  have noneNew : last.appendedIds.filter (· ∈ session.shownIds) = [] :=
    List.filter_eq_nil_iff.mpr fun id appended =>
      by simpa using announcing.not_mem_shownIds appended
  have allOld : session.shownIds.filter (· ∈ session.shownIds) = session.shownIds :=
    List.filter_eq_self.mpr fun id shown => by simpa using shown
  rwa [List.filter_append, noneNew, allOld, List.append_nil] at kept

theorem Announcing.announced
    {operation : Operation}
    (announcing : Announcing session (session.lines.absorb operation).2
      (session.stages operation) (session.perform operation)) :
    Announced session operation where
  focused_eq := announcing.focused_eq
  increasing := announcing.arrives.increasing
  mem_appendedIds_iff := by
    intro id
    constructor
    · intro appended
      exact ⟨announcing.arrives.shownAt id appended, announcing.not_mem_shownIds appended⟩
    · rintro ⟨⟨stage, isStage, shown⟩, isNew⟩
      exact (announcing.arrives.announced stage isStage id shown).resolve_left isNew
  suffix := announcing.suffix
  changed := by
    intro old wasShown entry shown sameId differs
    have wasShownId : entry.id ∈ session.shownIds :=
      List.mem_map.mpr ⟨old, wasShown, sameId⟩
    rcases announcing.keeps.kept entry shown with
      appended | ⟨earlier, earlierShown, added, grows, _, patched⟩
    · exact absurd wasShownId (announcing.not_mem_shownIds appended)
    · have sameEntry := announcing.startOrdered.active.eq_of_id_eq earlierShown wasShown
        (grows.id_eq.trans sameId.symm)
      subst sameEntry
      apply patched
      intro nothing
      obtain ⟨sameText, sameVisible⟩ := grows.same nothing
      exact differs.elim (absurd sameText) (absurd sameVisible)
  grownAt := announcing.keeps.grownAt
  grown := announcing.keeps.grown
  unchanged := by
    intro entry shown notNew notGrown
    obtain ⟨old, wasShown, added, grows, _, patched⟩ :=
      (announcing.keeps.kept entry shown).resolve_left notNew
    have nothing : added = [] := by
      by_contra grew
      exact notGrown (patched grew)
    obtain ⟨sameText, sameVisible⟩ := grows.same nothing
    exact ⟨old, wasShown, grows.id_eq, grows.kind_eq, grows.severity_eq, sameText, sameVisible⟩

/-- When all changes were taken, an operation asks for the view to be shown anew exactly if it
switches the view, empties it, or sets the filter; and every other operation announces all that it
changes on show. -/
theorem announced_perform
    (options : SessionOptions)
    (history : List Operation)
    (taken : ((ofOptions options).run history).updates = #[])
    (operation : Operation) :
    let session := (ofOptions options).run history
    (session.turnsOver operation = true ↔
        .redraw ∈ (session.perform operation).updates.toList) ∧
      (.redraw ∉ (session.perform operation).updates.toList → Announced session operation) := by
  intro session
  have reports := reports_perform (ordered_run options history) (clean_run options history) taken
    operation
  cases turned : session.turnsOver operation with
  | true =>
      rw [turned] at reports
      have redrawn : (session.perform operation).updates = #[.redraw] := reports
      have asks : Update.redraw ∈ (session.perform operation).updates.toList := by
        rw [redrawn]
        exact List.mem_singleton_self _
      exact ⟨⟨fun _ => asks, fun _ => rfl⟩, absurd asks⟩
  | false =>
      rw [turned] at reports
      have announcing : Announcing session (session.lines.absorb operation).2
          (session.stages operation) (session.perform operation) :=
        reports
      exact ⟨⟨nofun, fun asks => absurd asks announcing.noRedraw⟩, fun _ => announcing.announced⟩

/-- With room for one entry a section grows and goes, and so does an entry that has just come in;
all three changes are announced. -/
theorem announced_perform_of_grown_section :
    let history : List Operation :=
      [.receive (.binary "*ERROR* boom\n".toUTF8.toList), .takeUpdates]
    let operation : Operation := .receive (.binary "\tat frame\none\ntwo\n".toUTF8.toList)
    let session := (ofOptions { bytesPerLine := 1048576 }).run history
    session.updates = #[] ∧
      (session.perform operation).updates = #[.patched 0, .appended 1, .appended 2] ∧
      (session.perform operation).shownIds = [2] ∧
      session.turnsOver operation = false ∧ Announced session operation := by
  intro history operation session
  have taken : session.updates = #[] := by decide +kernel
  have queued : (session.perform operation).updates = #[.patched 0, .appended 1, .appended 2] := by
    decide +kernel
  have noRedraw : .redraw ∉ (session.perform operation).updates.toList := by
    rw [queued]
    decide
  have announced := announced_perform { bytesPerLine := 1048576 } history taken operation
  exact ⟨taken, queued, by decide +kernel, rfl, announced.2 noRedraw⟩

end Session
end TailView
