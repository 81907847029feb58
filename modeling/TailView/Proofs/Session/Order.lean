import TailView.Proofs.Session.Views

/-!
# The order of a session's views

Every operation is made of few steps: a line or a message comes in, the stream or the views are
reset, the room of the main view changes, the filter is set, the view on show is switched, or
something around the views changes.  What these steps preserve holds after every history.  The first
such property is that both views are in order.
-/

namespace TailView
namespace Session

variable {session : Session} {entry : Entry} {next : Classifier} {id : EntryId} {line : String}

/-- Two sessions that differ at most in what surrounds the views and in the queued changes. -/
structure SameViews (session other : Session) : Prop where
  /-- The classifiers are equal. -/
  classifier : other.classifier = session.classifier
  /-- The main views are equal. -/
  scrollback : other.scrollback = session.scrollback
  /-- The views of errors are equal. -/
  focus : other.focus = session.focus
  /-- The filters are equal. -/
  filter : other.filter = session.filter

/-- A property that the steps of which all operations are made preserve. -/
structure Stable (Holds : Session → Prop) : Prop where
  /-- A line comes in. -/
  addLine : ∀ session line, Holds session → Holds (session.addLine line)
  /-- A message of the viewer comes in. -/
  note : ∀ session text, Holds session → Holds (session.note text)
  /-- The stream is reset. -/
  resetStream : ∀ session, Holds session → Holds session.resetStream
  /-- The views are emptied. -/
  resetView : ∀ session, Holds session → Holds session.resetView
  /-- The room of the main view changes. -/
  resize : ∀ session capacity, Holds session →
    Holds { session with scrollback := session.scrollback.setCapacity capacity }
  /-- The filter is set. -/
  setFilter : ∀ session text, Holds session → Holds (session.setFilter text)
  /-- The view on show is switched. -/
  toggleErrorFocus : ∀ session, Holds session → Holds session.toggleErrorFocus
  /-- Something around the views changes. -/
  around : ∀ {session other}, Holds session → SameViews session other → Holds other

namespace Stable

variable {Holds : Session → Prop}

theorem openFile
    (stable : Stable Holds)
    (holds : Holds session)
    (file : String)
    (amount : Amount) :
    Holds (session.openFile file amount) := by
  have selected : Holds { session with selection := some ⟨file, amount⟩ } :=
    stable.around holds ⟨rfl, rfl, rfl, rfl⟩
  have emptied := stable.resetView _ selected
  have resized := stable.resize _ (amount.capacity session.bytesPerLine) emptied
  exact stable.around resized ⟨rfl, rfl, rfl, rfl⟩

theorem reload (stable : Stable Holds) (holds : Holds session) : Holds session.reload := by
  unfold Session.reload
  split
  · exact stable.openFile holds _ _
  · exact holds

theorem stop (stable : Stable Holds) (holds : Holds session) : Holds session.stop := by
  have ended : Holds { session with follow := false } :=
    stable.around holds ⟨rfl, rfl, rfl, rfl⟩
  exact stable.around (stable.resetStream _ ended) ⟨rfl, rfl, rfl, rfl⟩

theorem toggleFollow (stable : Stable Holds) (holds : Holds session) :
    Holds session.toggleFollow := by
  unfold Session.toggleFollow
  split
  · exact stable.stop holds
  · exact stable.reload (stable.around holds ⟨rfl, rfl, rfl, rfl⟩)

theorem pollFilter (stable : Stable Holds) (holds : Holds session) (now : Nat) :
    Holds (session.pollFilter now) := by
  unfold Session.pollFilter
  split
  · exact stable.setFilter _ _ holds
  · exact holds

theorem connected (stable : Stable Holds) (holds : Holds session) : Holds session.connected := by
  unfold Session.connected
  split
  · exact stable.around (stable.resetView _ holds) ⟨rfl, rfl, rfl, rfl⟩
  · exact stable.around holds ⟨rfl, rfl, rfl, rfl⟩

theorem disconnected (stable : Stable Holds) (holds : Holds session) (reason : String) :
    Holds (session.disconnected reason) :=
  stable.note _ _ (stable.around holds ⟨rfl, rfl, rfl, rfl⟩)

theorem foldl_addLine (stable : Stable Holds) (holds : Holds session) (lines : List String) :
    Holds (lines.foldl Session.addLine session) := by
  induction lines generalizing session with
  | nil => exact holds
  | cons line rest inductionHypothesis =>
      exact inductionHypothesis (stable.addLine _ _ holds)

theorem receive (stable : Stable Holds) (holds : Holds session) (payload : Payload) :
    Holds (session.receive payload) := by
  cases payload with
  | binary bytes =>
      have buffered : Holds { session with lines := (session.lines.feed bytes).1 } :=
        stable.around holds ⟨rfl, rfl, rfl, rfl⟩
      exact stable.foldl_addLine buffered (session.lines.feed bytes).2
  | text notice =>
      rw [Session.receive]
      split
      · exact holds
      · exact stable.note _ _ holds
  | unsupported description => exact holds

theorem endStream (stable : Stable Holds) (holds : Holds session) : Holds session.endStream := by
  unfold Session.endStream
  split
  · exact stable.addLine _ _ (stable.around holds ⟨rfl, rfl, rfl, rfl⟩)
  · exact holds

theorem handle
    (stable : Stable Holds)
    (holds : Holds session)
    (control : Control)
    (now : Nat) :
    Holds (session.handle control now) := by
  cases control with
  | openFile file amount => exact stable.openFile holds file amount
  | filter pattern => exact stable.around holds ⟨rfl, rfl, rfl, rfl⟩
  | toggleErrorFocus => exact stable.toggleErrorFocus _ holds
  | toggleFollow => exact stable.toggleFollow holds
  | stop => exact stable.stop holds
  | reload => exact stable.reload holds
  | quit => exact holds

/-- Every operation preserves what its steps preserve. -/
theorem perform (stable : Stable Holds) (holds : Holds session) (operation : Operation) :
    Holds (session.perform operation) := by
  cases operation with
  | openFile file amount => exact stable.openFile holds file amount
  | reload => exact stable.reload holds
  | stop => exact stable.stop holds
  | toggleFollow => exact stable.toggleFollow holds
  | toggleErrorFocus => exact stable.toggleErrorFocus _ holds
  | setFilter text => exact stable.setFilter _ _ holds
  | typeFilter text now => exact stable.around holds ⟨rfl, rfl, rfl, rfl⟩
  | pollFilter now => exact stable.pollFilter holds now
  | handle control now => exact stable.handle holds control now
  | connected => exact stable.connected holds
  | dial => exact stable.around holds ⟨rfl, rfl, rfl, rfl⟩
  | disconnected reason => exact stable.disconnected holds reason
  | heartbeat => exact stable.around holds ⟨rfl, rfl, rfl, rfl⟩
  | receive payload => exact stable.receive holds payload
  | endStream => exact stable.endStream holds
  | note text => exact stable.note _ _ holds
  | takeOutbound => exact stable.around holds ⟨rfl, rfl, rfl, rfl⟩
  | takeUpdates => exact stable.around holds ⟨rfl, rfl, rfl, rfl⟩

/-- What the steps preserve holds after every history. -/
theorem run (stable : Stable Holds) (holds : Holds session) (operations : List Operation) :
    Holds (session.run operations) := by
  unfold Session.run
  induction operations generalizing session with
  | nil => exact holds
  | cons operation rest inductionHypothesis =>
      exact inductionHypothesis (stable.perform holds operation)

end Stable

/-! ## The views stay in order -/

theorem Ordered.growSection
    (ordered : session.Ordered)
    (isOpen : session.classifier.openSection = some id)
    (line : String) :
    (session.growSection id line).Ordered where
  main := by
    rw [mainView_growSection ordered, classifier_growSection]
    exact ordered.main.map (by simp) (by simp)
  focus := by
    rw [focusView_growSection ordered isOpen, classifier_growSection]
    exact ordered.focus.map (by simp) (by simp)
  errors := by
    rw [focusView_growSection ordered isOpen, List.forall_mem_map]
    simpa using ordered.errors
  room := by
    rw [capacity_eq_of_limits_eq (limits_growSection session id line)]
    exact ordered.room

/-- The main view is in order when an entry has come in, before old ones go. -/
theorem Ordered.entered
    (ordered : session.Ordered)
    (handsOut : session.classifier.HandsOut entry next) :
    InOrder next (session.mainView.map (Scrollback.answeredBy entry) ++
      [session.filter.apply entry]) := by
  have answered := ordered.main.map (Scrollback.id_answeredBy entry)
    (Scrollback.isSection_answeredBy entry)
  exact answered.append handsOut rfl rfl

theorem Ordered.enter
    (ordered : session.Ordered)
    (handsOut : session.classifier.HandsOut entry next) :
    (session.enter entry next).Ordered where
  main := by
    rw [mainView_enter ordered handsOut, classifier_enter]
    exact (ordered.entered handsOut).sublist (rtake_suffix _ _).sublist
  focus := by
    rw [focusView_enter, classifier_enter]
    split
    · exact ordered.focus.append handsOut rfl rfl
    · rw [List.append_nil]
      exact ordered.focus.skip handsOut
  errors := by
    rw [focusView_enter, List.forall_mem_append]
    refine ⟨ordered.errors, ?_⟩
    split
    · next isError =>
        intro other isTaken
        rw [List.mem_singleton.mp isTaken]
        exact isError
    · nofun
  room := by
    rw [capacity_eq_of_limits_eq (limits_enter session entry next)]
    exact ordered.room

theorem Ordered.addLine (ordered : session.Ordered) (line : String) :
    (session.addLine line).Ordered := by
  rcases session.addLine_cases line with ⟨id, isOpen, _, grown⟩ | ⟨entry, next, files, _, entered⟩
  · rw [grown]
    exact ordered.growSection isOpen line
  · rw [entered]
    exact ordered.enter files.toHandsOut

theorem Ordered.note (ordered : session.Ordered) (text : String) :
    (session.note text).Ordered :=
  ordered.enter (session.classifier.info_handsOut text)

/-- Emptying the views leaves them in order, whatever they were. -/
theorem ordered_resetView (room : 0 < session.scrollback.capacity) : session.resetView.Ordered where
  main := InOrder.nil nofun
  focus := InOrder.nil nofun
  errors := nofun
  room := room

theorem mainView_setFilter (session : Session) (text : String) :
    (session.setFilter text).mainView =
      session.mainView.map (session.filter.setText text).apply := by
  simp [mainView, Session.setFilter, Scrollback.updateAll, announce]

theorem focusView_setFilter (session : Session) (text : String) :
    (session.setFilter text).focusView =
      session.focusView.map (session.filter.setText text).apply := by
  simp [focusView, Session.setFilter, ErrorFocus.updateAll, announce]

/-- All steps keep the views in order. -/
theorem stable_ordered : Stable Ordered where
  addLine := fun _ line ordered => ordered.addLine line
  note := fun _ text ordered => ordered.note text
  resetStream := fun _ ordered =>
    ⟨ordered.main.reset, ordered.focus.reset, ordered.errors, ordered.room⟩
  resetView := fun _ ordered => ordered_resetView ordered.room
  resize := fun session capacity ordered =>
    ⟨ordered.main, ordered.focus, ordered.errors,
      session.scrollback.capacity_setCapacity_pos capacity⟩
  setFilter := by
    intro session text ordered
    refine ⟨?_, ?_, ?_, ordered.room⟩
    · rw [mainView_setFilter]
      exact ordered.main.map (fun _ => rfl) (fun _ => rfl)
    · rw [focusView_setFilter]
      exact ordered.focus.map (fun _ => rfl) (fun _ => rfl)
    · rw [focusView_setFilter, List.forall_mem_map]
      exact ordered.errors
  toggleErrorFocus := fun _ ordered => ⟨ordered.main, ordered.focus, ordered.errors, ordered.room⟩
  around := by
    intro session other ordered same
    have main : other.mainView = session.mainView := by rw [mainView, mainView, same.scrollback]
    have focus : other.focusView = session.focusView := by rw [focusView, focusView, same.focus]
    refine ⟨?_, ?_, ?_, ?_⟩
    · rw [main, same.classifier]
      exact ordered.main
    · rw [focus, same.classifier]
      exact ordered.focus
    · rw [focus]
      exact ordered.errors
    · rw [same.scrollback]
      exact ordered.room

/-- Taking the queued changes leaves the views in order. -/
theorem Ordered.takeUpdates (ordered : session.Ordered) : session.takeUpdates.Ordered :=
  stable_ordered.around ordered ⟨rfl, rfl, rfl, rfl⟩

theorem ordered_ofOptions (options : SessionOptions) : (ofOptions options).Ordered where
  main := InOrder.nil nofun
  focus := InOrder.nil nofun
  errors := nofun
  room := Scrollback.capacity_ofCapacity_pos _

/-- The views of a session are in order after every history. -/
theorem ordered_run (options : SessionOptions) (operations : List Operation) :
    ((ofOptions options).run operations).Ordered :=
  stable_ordered.run (ordered_ofOptions options) operations

end Session
end TailView
