import TailView.Proofs.Session.Alike
import TailView.Proofs.Session.Visibility

/-!
# Starting anew

Opening a file empties the views, and so does a connection that opens again.  Nothing of what
happened before then shows in what comes in later: two sessions that start anew in the same way
show the same entries from then on, except that one goes on with greater ids than the other.
-/

namespace TailView

/-- Whether an operation takes something in: what arrives, the end of the stream, or a message. -/
def Operation.takesIn : Operation → Bool
  | .receive _ | .endStream | .note _ => true
  | _ => false

namespace Session

variable {offset otherOffset : Nat} {session other : Session} {later : List Operation}

/-- What is taken in keeps sessions alike. -/
theorem Alike.perform_takesIn
    (alike : Alike offset otherOffset session other)
    {operation : Operation}
    (takesIn : operation.takesIn = true) :
    Alike offset otherOffset (session.perform operation) (other.perform operation) := by
  cases operation with
  | receive payload => exact alike.receive payload
  | endStream => exact alike.endStream
  | note text => exact alike.note text
  | _ => cases takesIn

theorem Alike.run_takesIn
    (alike : Alike offset otherOffset session other)
    (takeIn : ∀ operation ∈ later, operation.takesIn = true) :
    Alike offset otherOffset (session.run later) (other.run later) := by
  induction later generalizing session other with
  | nil => exact alike
  | cons operation rest inductionHypothesis =>
      obtain ⟨first, others⟩ := List.forall_mem_cons.mp takeIn
      exact inductionHypothesis (alike.perform_takesIn first) others

/-- What is taken in makes no text the filter. -/
theorem filterTexts_of_takesIn
    (session : Session)
    (takeIn : ∀ operation ∈ later, operation.takesIn = true) :
    session.filterTexts later = [] := by
  induction later generalizing session with
  | nil => rfl
  | cons operation rest inductionHypothesis =>
      obtain ⟨first, others⟩ := List.forall_mem_cons.mp takeIn
      have noText : session.filterText? operation = none := by
        cases operation with
        | receive | endStream | note => rfl
        | _ => cases first
      rw [filterTexts, noText, inductionHypothesis _ others]
      rfl

/-! ## What is seen -/

theorem filtered_run (options : SessionOptions) (operations : List Operation) :
    ((ofOptions options).run operations).Filtered :=
  (stable_filtered.run ⟨ordered_ofOptions options, nofun⟩ operations).2

/-- An entry that the filter has looked at follows from the rest of it. -/
theorem raise_eq_apply_bare
    {filter : Filter}
    {entry : Entry}
    (looked : entry.visible = filter.isVisible entry.text) :
    entry.raise offset = filter.apply (entry.bare offset) := by
  unfold Filter.apply
  rw [Entry.text_bare, ← looked]
  rfl

/-- Views that hold the same entries show the same of them if the same pattern is applied. -/
theorem map_raise_eq_of_map_bare_eq
    {filter otherFilter : Filter}
    {view otherView : List Entry}
    (sameActive : filter.active = otherFilter.active)
    (looked : ∀ entry ∈ view, entry.visible = filter.isVisible entry.text)
    (otherLooked : ∀ entry ∈ otherView, entry.visible = otherFilter.isVisible entry.text)
    (alike : view.map (Entry.bare offset) = otherView.map (Entry.bare otherOffset)) :
    view.map (Entry.raise offset) = otherView.map (Entry.raise otherOffset) := by
  have sameApply : filter.apply = otherFilter.apply := by
    unfold Filter.apply Filter.isVisible
    rw [sameActive]
  calc view.map (Entry.raise offset)
      = (view.map (Entry.bare offset)).map filter.apply := by
        rw [List.map_map]
        exact List.map_congr_left fun entry member => raise_eq_apply_bare (looked entry member)
    _ = (otherView.map (Entry.bare otherOffset)).map otherFilter.apply := by
        rw [alike, sameApply]
    _ = otherView.map (Entry.raise otherOffset) := by
        rw [List.map_map]
        exact (List.map_congr_left fun entry member =>
          raise_eq_apply_bare (otherLooked entry member)).symm

/-- Both views show the same once the ids of each session are raised by an offset. -/
structure SameUpToIds (offset otherOffset : Nat) (session other : Session) : Prop where
  /-- The main views show the same. -/
  main_eq :
    session.mainView.map (Entry.raise offset) = other.mainView.map (Entry.raise otherOffset)
  /-- The views of errors show the same. -/
  focus_eq :
    session.focusView.map (Entry.raise offset) = other.focusView.map (Entry.raise otherOffset)

theorem Alike.sameUpToIds
    (alike : Alike offset otherOffset session other)
    (filtered : session.Filtered)
    (otherFiltered : other.Filtered)
    (sameActive : session.filter.active = other.filter.active) :
    SameUpToIds offset otherOffset session other where
  main_eq := map_raise_eq_of_map_bare_eq sameActive
    (fun entry member => filtered entry (List.mem_append_left _ member))
    (fun entry member => otherFiltered entry (List.mem_append_left _ member)) alike.main_eq
  focus_eq := map_raise_eq_of_map_bare_eq sameActive
    (fun entry member => filtered entry (List.mem_append_right _ member))
    (fun entry member => otherFiltered entry (List.mem_append_right _ member)) alike.focus_eq

/-! ## Two ways to start anew -/

/-- Whether the connection has been open before and has a current command, which is answered from
the start when it opens again. -/
def resumes (session : Session) : Bool :=
  session.connection.openedBefore && session.connection.current.isSome

/-- A connection that resumes empties the views. -/
theorem connected_of_resumes (resumes : session.resumes = true) :
    SameViews session.resetView session.connected ∧
      session.connected.lines = session.resetView.lines := by
  unfold Session.resumes at resumes
  unfold connected
  rw [if_pos resumes]
  exact ⟨⟨rfl, rfl, rfl, rfl⟩, rfl⟩

theorem Alike.of_connected
    (ordered : session.Ordered)
    (otherOrdered : other.Ordered)
    (sameRule : session.classifier.rule = other.classifier.rule)
    (sameNext : session.classifier.nextId + offset = other.classifier.nextId + otherOffset)
    (sameCapacity : session.scrollback.capacity = other.scrollback.capacity)
    (resumes : session.resumes = true)
    (otherResumes : other.resumes = true) :
    Alike offset otherOffset session.connected other.connected := by
  have emptied : Alike offset otherOffset session.resetView other.resetView :=
    .of_resetView ordered otherOrdered sameRule sameNext sameCapacity
  obtain ⟨same, sameLines⟩ := connected_of_resumes resumes
  obtain ⟨otherSame, otherSameLines⟩ := connected_of_resumes otherResumes
  exact emptied.around same otherSame (sameLines.trans otherSameLines.symm)

/-- If an operation leaves two sessions alike, with the same pattern applied, then they show the same
whatever is taken in after it. -/
theorem sameUpToIds_of_alike
    {options otherOptions : SessionOptions}
    {history otherHistory : List Operation}
    {restart : Operation}
    (alike : Alike offset otherOffset (((ofOptions options).run history).perform restart)
      (((ofOptions otherOptions).run otherHistory).perform restart))
    (sameActive : (((ofOptions options).run history).perform restart).filter.active =
      (((ofOptions otherOptions).run otherHistory).perform restart).filter.active)
    (takeIn : ∀ operation ∈ later, operation.takesIn = true) :
    SameUpToIds offset otherOffset
      ((((ofOptions options).run history).perform restart).run later)
      ((((ofOptions otherOptions).run otherHistory).perform restart).run later) := by
  have oneHistory : ∀ (start : Session) (before : List Operation),
      ((start.run before).perform restart).run later = start.run (before ++ restart :: later) := by
    intro start before
    unfold run
    rw [List.foldl_append, List.foldl_cons]
  refine (alike.run_takesIn takeIn).sameUpToIds ?_ ?_ ?_
  · rw [oneHistory]
    exact filtered_run options _
  · rw [oneHistory]
    exact filtered_run otherOptions _
  · rw [filter_run, filter_run, filterTexts_of_takesIn _ takeIn, filterTexts_of_takesIn _ takeIn]
    exact sameActive

/-- Two sessions open sections by the same rule and apply the same pattern, whatever else has
happened to them.  If both open the same file, with the same estimate of the length of a line, or if
the connection of both opens again with a current command and the same room for entries, then they
show the same whatever is taken in later, except that the ids of the one that had handed out less
are smaller by the difference. -/
theorem sameUpToIds_of_restart
    (options otherOptions : SessionOptions)
    (history otherHistory : List Operation)
    {later : List Operation}
    (takeIn : ∀ operation ∈ later, operation.takesIn = true) :
    let session := (ofOptions options).run history
    let other := (ofOptions otherOptions).run otherHistory
    let offset := other.classifier.nextId - session.classifier.nextId
    let otherOffset := session.classifier.nextId - other.classifier.nextId
    session.classifier.rule = other.classifier.rule →
    session.filter.active = other.filter.active →
    (session.bytesPerLine = other.bytesPerLine →
      ∀ (file : String) (amount : Amount),
        SameUpToIds offset otherOffset ((session.openFile file amount).run later)
          ((other.openFile file amount).run later)) ∧
    (session.scrollback.capacity = other.scrollback.capacity →
      session.resumes = true → other.resumes = true →
        SameUpToIds offset otherOffset (session.connected.run later)
          (other.connected.run later)) := by
  intro session other offset otherOffset sameRule sameActive
  have ordered : session.Ordered := ordered_run options history
  have otherOrdered : other.Ordered := ordered_run otherOptions otherHistory
  have sameNext : session.classifier.nextId + offset = other.classifier.nextId + otherOffset := by
    -- both come up to the greater of the two
    have reach : ∀ first second : Nat, first + (second - first) = second + (first - second) := by
      omega
    exact reach _ _
  constructor
  · intro sameLength file amount
    have alike : Alike offset otherOffset (session.perform (.openFile file amount))
        (other.perform (.openFile file amount)) :=
      .of_openFile ordered otherOrdered sameRule sameNext sameLength file amount
    exact sameUpToIds_of_alike alike sameActive takeIn
  · intro sameCapacity resumes otherResumes
    have alike : Alike offset otherOffset (session.perform .connected)
        (other.perform .connected) :=
      .of_connected ordered otherOrdered sameRule sameNext sameCapacity resumes otherResumes
    refine sameUpToIds_of_alike alike ?_ takeIn
    rw [perform, perform, filter_connected, filter_connected]
    exact sameActive

/-- A session whose connection is lost in the middle of a character of an error, and one that has
lost its connection before anything arrived. -/
theorem sameUpToIds_of_restart_after_loss :
    let interrupted : List Operation :=
      [.openFile "old.log" .standard, .connected,
        .receive (.binary "one\n*ERROR* boom\n\tat fra".toUTF8.toList), .receive (.binary [195]),
        .disconnected "lost"]
    let idle : List Operation :=
      [.openFile "new.log" .standard, .connected, .disconnected "lost"]
    let later : List Operation :=
      [.receive (.binary "1 more\n*ERROR* again\n".toUTF8.toList), .note "still here", .endStream]
    let session := (ofOptions {}).run interrupted
    let other := (ofOptions {}).run idle
    (∀ operation ∈ later, operation.takesIn = true) ∧
      session.classifier.rule = other.classifier.rule ∧
      session.filter.active = other.filter.active ∧
      session.bytesPerLine = other.bytesPerLine ∧
      session.scrollback.capacity = other.scrollback.capacity ∧
      session.resumes = true ∧ other.resumes = true ∧
      SameUpToIds 0 2 ((session.openFile "app.log" .standard).run later)
        ((other.openFile "app.log" .standard).run later) ∧
      SameUpToIds 0 2 (session.connected.run later) (other.connected.run later) := by
  intro interrupted idle later session other
  have takeIn : ∀ operation ∈ later, operation.takesIn = true := by decide
  have sameRule : session.classifier.rule = other.classifier.rule := by decide +kernel
  have sameActive : session.filter.active = other.filter.active := by
    rw [filter_run, filter_run]
    rfl
  have sameLength : session.bytesPerLine = other.bytesPerLine := by decide +kernel
  have sameCapacity : session.scrollback.capacity = other.scrollback.capacity := by
    decide +kernel
  have resumes : session.resumes = true := by decide +kernel
  have otherResumes : other.resumes = true := by decide +kernel
  have behind : other.classifier.nextId - session.classifier.nextId = 0 := by decide +kernel
  have ahead : session.classifier.nextId - other.classifier.nextId = 2 := by decide +kernel
  obtain ⟨opened, reconnected⟩ :=
    sameUpToIds_of_restart {} {} interrupted idle takeIn sameRule sameActive
  refine ⟨takeIn, sameRule, sameActive, sameLength, sameCapacity, resumes, otherResumes, ?_, ?_⟩
  · have same := opened sameLength "app.log" .standard
    rwa [behind, ahead] at same
  · have same := reconnected sameCapacity resumes otherResumes
    rwa [behind, ahead] at same

end Session
end TailView
