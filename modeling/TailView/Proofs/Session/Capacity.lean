import TailView.Proofs.Session.Order
import TailView.Proofs.Sizing

/-!
# How far back the main view reaches

Two sessions that estimate the length of a line differently keep different numbers of entries, and
nothing else about them differs: whatever is done to both, the main view with the smaller room is
the end of the other one.
-/

namespace TailView

namespace Session

variable {narrow wide : Session} {entry : Entry} {next : Classifier} {id : EntryId}

/-- A session without its main view, the estimate behind the room of that view, and the queued
changes. -/
def besidesMainView (session : Session) : Session :=
  { session with bytesPerLine := 0, scrollback := { capacity := 0 }, updates := #[] }

/-- A session is like another one but for the main view, which has less room and is the end of the
other main view. -/
structure Narrows (narrow wide : Session) : Prop where
  /-- All else is the same. -/
  same : narrow.besidesMainView = wide.besidesMainView
  /-- The views of the session are in order. -/
  ordered : narrow.Ordered
  /-- The views of the other session are in order. -/
  wideOrdered : wide.Ordered
  /-- The lines are taken to be at least as long. -/
  coarser : wide.bytesPerLine ≤ narrow.bytesPerLine
  /-- The room is at most as large. -/
  tighter : narrow.scrollback.capacity ≤ wide.scrollback.capacity
  /-- The main view is the end of the other one. -/
  mainView_eq : narrow.mainView = wide.mainView.rtake narrow.scrollback.capacity

namespace Narrows

/-- Whatever does not look at the main view does the same to what is besides it. -/
theorem same_of_besides
    (narrows : Narrows narrow wide)
    (change : Session → Session)
    (besides : ∀ session : Session,
      (change session).besidesMainView = (change session.besidesMainView).besidesMainView) :
    (change narrow).besidesMainView = (change wide).besidesMainView := by
  rw [besides narrow, narrows.same, ← besides wide]

/-- Both sessions carry the same state from line to line. -/
theorem classifier_eq (narrows : Narrows narrow wide) : narrow.classifier = wide.classifier :=
  congrArg (·.classifier) narrows.same

/-- Both sessions filter alike. -/
theorem filter_eq (narrows : Narrows narrow wide) : narrow.filter = wide.filter :=
  congrArg (·.filter) narrows.same

/-- Both sessions are connected alike. -/
theorem connection_eq (narrows : Narrows narrow wide) : narrow.connection = wide.connection :=
  congrArg (·.connection) narrows.same

/-- The same bytes wait in both sessions. -/
theorem lines_eq (narrows : Narrows narrow wide) : narrow.lines = wide.lines :=
  congrArg (·.lines) narrows.same

/-! ## Lines and messages -/

/-- A section that is gone from the smaller view grows in the larger one only. -/
theorem growSection
    (narrows : Narrows narrow wide)
    (isOpen : wide.classifier.openSection = some id)
    (line : String) :
    Narrows (narrow.growSection id line) (wide.growSection id line) := by
  have narrowOpen : narrow.classifier.openSection = some id := narrows.classifier_eq ▸ isOpen
  have narrowLimits := limits_growSection narrow id line
  have wideLimits := limits_growSection wide id line
  refine ⟨?_, narrows.ordered.growSection narrowOpen line,
    narrows.wideOrdered.growSection isOpen line, ?_, ?_, ?_⟩
  · apply narrows.same_of_besides fun session => session.growSection id line
    intro session
    rw [growSection_eq, growSection_eq]
    rfl
  · rw [bytesPerLine_eq_of_limits_eq narrowLimits, bytesPerLine_eq_of_limits_eq wideLimits]
    exact narrows.coarser
  · rw [capacity_eq_of_limits_eq narrowLimits, capacity_eq_of_limits_eq wideLimits]
    exact narrows.tighter
  · rw [mainView_growSection narrows.ordered, mainView_growSection narrows.wideOrdered,
      narrows.mainView_eq, map_rtake, narrows.filter_eq, capacity_eq_of_limits_eq narrowLimits]

/-- A new entry pushes the oldest one out of the smaller view first. -/
theorem enter
    (narrows : Narrows narrow wide)
    (handsOut : wide.classifier.HandsOut entry next) :
    Narrows (narrow.enter entry next) (wide.enter entry next) := by
  have narrowHandsOut : narrow.classifier.HandsOut entry next := narrows.classifier_eq ▸ handsOut
  have narrowLimits := limits_enter narrow entry next
  have wideLimits := limits_enter wide entry next
  refine ⟨?_, narrows.ordered.enter narrowHandsOut, narrows.wideOrdered.enter handsOut,
    ?_, ?_, ?_⟩
  · apply narrows.same_of_besides fun session => session.enter entry next
    intro session
    rw [enter_eq, enter_eq]
    rfl
  · rw [bytesPerLine_eq_of_limits_eq narrowLimits, bytesPerLine_eq_of_limits_eq wideLimits]
    exact narrows.coarser
  · rw [capacity_eq_of_limits_eq narrowLimits, capacity_eq_of_limits_eq wideLimits]
    exact narrows.tighter
  · -- linking an answer looks at one entry at a time, so it commutes with the dropping
    rw [mainView_enter narrows.ordered narrowHandsOut, mainView_enter narrows.wideOrdered handsOut,
      narrows.mainView_eq, map_rtake, rtake_append_of_rtake, narrows.filter_eq,
      capacity_eq_of_limits_eq narrowLimits, rtake_rtake_of_le narrows.tighter]

theorem addLine (narrows : Narrows narrow wide) (line : String) :
    Narrows (narrow.addLine line) (wide.addLine line) := by
  have sameClassifier := narrows.classifier_eq
  cases found : wide.classifier.continued? line with
  | some id =>
      have narrowFound : narrow.classifier.continued? line = some id := sameClassifier ▸ found
      rw [addLine_of_continued found, addLine_of_continued narrowFound]
      exact narrows.growSection (Classifier.continued?_eq_some_iff.mp found).2 line
  | none =>
      have narrowFresh : narrow.classifier.continued? line = none := sameClassifier ▸ found
      rw [addLine_of_fresh found, addLine_of_fresh narrowFresh, sameClassifier]
      exact narrows.enter (wide.classifier.classifyFresh_files line).toHandsOut

theorem note (narrows : Narrows narrow wide) (text : String) :
    Narrows (narrow.note text) (wide.note text) := by
  rw [note_eq, note_eq, narrows.classifier_eq]
  exact narrows.enter (wide.classifier.info_handsOut text)

theorem foldl_addLine (narrows : Narrows narrow wide) (lines : List String) :
    Narrows (lines.foldl Session.addLine narrow) (lines.foldl Session.addLine wide) := by
  induction lines generalizing narrow wide with
  | nil => exact narrows
  | cons line rest inductionHypothesis => exact inductionHypothesis (narrows.addLine line)

/-! ## What else is done to a session -/

/-- What leaves the views and the estimate alone keeps the one main view the end of the other. -/
theorem around
    (narrows : Narrows narrow wide)
    (change : Session → Session)
    (besides : ∀ session : Session,
      (change session).besidesMainView = (change session.besidesMainView).besidesMainView)
    (views : ∀ session, SameViews session (change session))
    (estimate : ∀ session, (change session).bytesPerLine = session.bytesPerLine) :
    Narrows (change narrow) (change wide) where
  same := narrows.same_of_besides change besides
  ordered := stable_ordered.around narrows.ordered (views narrow)
  wideOrdered := stable_ordered.around narrows.wideOrdered (views wide)
  coarser := by
    rw [estimate, estimate]
    exact narrows.coarser
  tighter := by
    rw [(views narrow).scrollback, (views wide).scrollback]
    exact narrows.tighter
  mainView_eq := by
    rw [mainView, mainView, (views narrow).scrollback, (views wide).scrollback]
    exact narrows.mainView_eq

theorem resetStream (narrows : Narrows narrow wide) :
    Narrows narrow.resetStream wide.resetStream where
  same := narrows.same_of_besides Session.resetStream fun _ => rfl
  ordered := stable_ordered.resetStream narrow narrows.ordered
  wideOrdered := stable_ordered.resetStream wide narrows.wideOrdered
  coarser := narrows.coarser
  tighter := narrows.tighter
  mainView_eq := narrows.mainView_eq

/-- Both main views are empty after a reset. -/
theorem resetView (narrows : Narrows narrow wide) :
    Narrows narrow.resetView wide.resetView where
  same := narrows.same_of_besides Session.resetView fun _ => rfl
  ordered := ordered_resetView narrows.ordered.room
  wideOrdered := ordered_resetView narrows.wideOrdered.room
  coarser := narrows.coarser
  tighter := narrows.tighter
  mainView_eq := (List.rtake_nil _).symm

theorem setFilter (narrows : Narrows narrow wide) (text : String) :
    Narrows (narrow.setFilter text) (wide.setFilter text) where
  same := narrows.same_of_besides (fun session => session.setFilter text) fun _ => rfl
  ordered := stable_ordered.setFilter narrow text narrows.ordered
  wideOrdered := stable_ordered.setFilter wide text narrows.wideOrdered
  coarser := narrows.coarser
  tighter := narrows.tighter
  mainView_eq := by
    rw [mainView_setFilter, mainView_setFilter, narrows.mainView_eq, map_rtake, narrows.filter_eq]
    rfl

theorem toggleErrorFocus (narrows : Narrows narrow wide) :
    Narrows narrow.toggleErrorFocus wide.toggleErrorFocus where
  same := narrows.same_of_besides Session.toggleErrorFocus fun _ => rfl
  ordered := stable_ordered.toggleErrorFocus narrow narrows.ordered
  wideOrdered := stable_ordered.toggleErrorFocus wide narrows.wideOrdered
  coarser := narrows.coarser
  tighter := narrows.tighter
  mainView_eq := narrows.mainView_eq

/-- Opening a file empties both main views before their room changes, so no entry is kept that has
no room. -/
theorem openFile (narrows : Narrows narrow wide) (file : String) (amount : Amount) :
    Narrows (narrow.openFile file amount) (wide.openFile file amount) where
  same := narrows.same_of_besides (fun session => session.openFile file amount) fun _ => rfl
  ordered := stable_ordered.openFile narrows.ordered file amount
  wideOrdered := stable_ordered.openFile narrows.wideOrdered file amount
  coarser := narrows.coarser
  tighter := max_le_max (Amount.capacity_le_capacity le_rfl narrows.coarser) le_rfl
  mainView_eq := (List.rtake_nil _).symm

theorem reload (narrows : Narrows narrow wide) : Narrows narrow.reload wide.reload := by
  have sameSelection : narrow.selection = wide.selection := congrArg (·.selection) narrows.same
  unfold Session.reload
  rw [sameSelection]
  split
  · exact narrows.openFile _ _
  · exact narrows

theorem stop (narrows : Narrows narrow wide) : Narrows narrow.stop wide.stop := by
  have ended := narrows.around (fun session => { session with follow := false })
    (fun _ => rfl) (fun _ => ⟨rfl, rfl, rfl, rfl⟩) (fun _ => rfl)
  exact ended.resetStream.around
    (fun session =>
      { session with connection := session.connection.stop.1 }.send
        session.connection.stop.2.toList)
    (fun _ => rfl) (fun _ => ⟨rfl, rfl, rfl, rfl⟩) (fun _ => rfl)

theorem toggleFollow (narrows : Narrows narrow wide) :
    Narrows narrow.toggleFollow wide.toggleFollow := by
  have sameFollow : narrow.follow = wide.follow := congrArg (·.follow) narrows.same
  unfold Session.toggleFollow
  rw [sameFollow]
  split
  · exact narrows.stop
  · have followed := narrows.around (fun session => { session with follow := true })
      (fun _ => rfl) (fun _ => ⟨rfl, rfl, rfl, rfl⟩) (fun _ => rfl)
    exact followed.reload

theorem pollFilter (narrows : Narrows narrow wide) (now : Nat) :
    Narrows (narrow.pollFilter now) (wide.pollFilter now) := by
  have sameTyped : narrow.typed = wide.typed := congrArg (·.typed) narrows.same
  unfold Session.pollFilter
  rw [sameTyped]
  split
  · exact narrows.setFilter _
  · exact narrows

/-- The server is greeted alike over both connections. -/
theorem greeted (narrows : Narrows narrow wide) :
    Narrows
      ({ narrow with connection := narrow.connection.opened }.send narrow.connection.greeting)
      ({ wide with connection := wide.connection.opened }.send wide.connection.greeting) :=
  narrows.around
    (fun session =>
      { session with connection := session.connection.opened }.send session.connection.greeting)
    (fun _ => rfl) (fun _ => ⟨rfl, rfl, rfl, rfl⟩) (fun _ => rfl)

theorem connected (narrows : Narrows narrow wide) : Narrows narrow.connected wide.connected := by
  unfold Session.connected
  rw [narrows.connection_eq]
  split
  · exact narrows.resetView.greeted
  · exact narrows.greeted

theorem dial (narrows : Narrows narrow wide) : Narrows narrow.dial wide.dial :=
  narrows.around Session.dial (fun _ => rfl) (fun _ => ⟨rfl, rfl, rfl, rfl⟩) (fun _ => rfl)

theorem disconnected (narrows : Narrows narrow wide) (reason : String) :
    Narrows (narrow.disconnected reason) (wide.disconnected reason) := by
  have closed := narrows.around
    (fun session => { session with connection := session.connection.closed })
    (fun _ => rfl) (fun _ => ⟨rfl, rfl, rfl, rfl⟩) (fun _ => rfl)
  unfold Session.disconnected
  simp only [narrows.connection_eq] at closed ⊢
  exact closed.note _

theorem receive (narrows : Narrows narrow wide) (payload : Payload) :
    Narrows (narrow.receive payload) (wide.receive payload) := by
  cases payload with
  | binary bytes =>
      have buffered := narrows.around
        (fun session => { session with lines := (session.lines.feed bytes).1 })
        (fun _ => rfl) (fun _ => ⟨rfl, rfl, rfl, rfl⟩) (fun _ => rfl)
      have completed := buffered.foldl_addLine (wide.lines.feed bytes).2
      rw [Session.receive, Session.receive, ← narrows.lines_eq] at *
      exact completed
  | text notice =>
      rw [Session.receive, Session.receive]
      split
      · exact narrows
      · exact narrows.note notice
  | unsupported description => exact narrows

theorem endStream (narrows : Narrows narrow wide) : Narrows narrow.endStream wide.endStream := by
  have emptied := narrows.around (fun session => { session with lines := .empty })
    (fun _ => rfl) (fun _ => ⟨rfl, rfl, rfl, rfl⟩) (fun _ => rfl)
  unfold Session.endStream
  rw [narrows.lines_eq]
  split
  · exact emptied.addLine _
  · exact narrows

theorem typeFilter (narrows : Narrows narrow wide) (text : String) (now : Nat) :
    Narrows (narrow.typeFilter text now) (wide.typeFilter text now) :=
  narrows.around (fun session => session.typeFilter text now)
    (fun _ => rfl) (fun _ => ⟨rfl, rfl, rfl, rfl⟩) (fun _ => rfl)

theorem handle (narrows : Narrows narrow wide) (control : Control) (now : Nat) :
    Narrows (narrow.handle control now) (wide.handle control now) := by
  cases control with
  | openFile file amount => exact narrows.openFile file amount
  | filter pattern => exact narrows.typeFilter pattern now
  | toggleErrorFocus => exact narrows.toggleErrorFocus
  | toggleFollow => exact narrows.toggleFollow
  | stop => exact narrows.stop
  | reload => exact narrows.reload
  | quit => exact narrows

/-- Every operation keeps the one main view the end of the other. -/
theorem perform (narrows : Narrows narrow wide) (operation : Operation) :
    Narrows (narrow.perform operation) (wide.perform operation) := by
  cases operation with
  | openFile file amount => exact narrows.openFile file amount
  | reload => exact narrows.reload
  | stop => exact narrows.stop
  | toggleFollow => exact narrows.toggleFollow
  | toggleErrorFocus => exact narrows.toggleErrorFocus
  | setFilter text => exact narrows.setFilter text
  | typeFilter text now => exact narrows.typeFilter text now
  | pollFilter now => exact narrows.pollFilter now
  | handle control now => exact narrows.handle control now
  | connected => exact narrows.connected
  | dial => exact narrows.dial
  | disconnected reason => exact narrows.disconnected reason
  | heartbeat =>
      exact narrows.around Session.heartbeat
        (fun _ => rfl) (fun _ => ⟨rfl, rfl, rfl, rfl⟩) (fun _ => rfl)
  | receive payload => exact narrows.receive payload
  | endStream => exact narrows.endStream
  | note text => exact narrows.note text
  | takeOutbound =>
      exact narrows.around Session.takeOutbound
        (fun _ => rfl) (fun _ => ⟨rfl, rfl, rfl, rfl⟩) (fun _ => rfl)
  | takeUpdates =>
      exact narrows.around Session.takeUpdates
        (fun _ => rfl) (fun _ => ⟨rfl, rfl, rfl, rfl⟩) (fun _ => rfl)

/-- Every history keeps the one main view the end of the other. -/
theorem run (narrows : Narrows narrow wide) (operations : List Operation) :
    Narrows (narrow.run operations) (wide.run operations) := by
  unfold Session.run
  induction operations generalizing narrow wide with
  | nil => exact narrows
  | cons operation rest inductionHypothesis =>
      exact inductionHypothesis (narrows.perform operation)

end Narrows

theorem capacity_ofOptions (options : SessionOptions) :
    (ofOptions options).scrollback.capacity =
      max (Amount.standard.capacity options.bytesPerLine) 1 :=
  rfl

theorem mainView_ofOptions (options : SessionOptions) : (ofOptions options).mainView = [] :=
  rfl

/-- Of two new sessions the one that takes lines to be longer has less room. -/
theorem narrows_ofOptions
    (options : SessionOptions)
    {fine coarse : Nat}
    (coarser : fine ≤ coarse) :
    Narrows (ofOptions { options with bytesPerLine := coarse })
      (ofOptions { options with bytesPerLine := fine }) where
  same := by simp only [besidesMainView, ofOptions]
  ordered := ordered_ofOptions _
  wideOrdered := ordered_ofOptions _
  coarser := coarser
  tighter := by
    rw [capacity_ofOptions, capacity_ofOptions]
    exact max_le_max (Amount.capacity_le_capacity le_rfl coarser) le_rfl
  mainView_eq := by
    rw [mainView_ofOptions, mainView_ofOptions, List.rtake_nil]

/-- A session keeps the end of what another one keeps in its main view, and all else that can be
seen of the two is the same. -/
structure KeepsEndOf (narrow wide : Session) : Prop where
  /-- The main view is the end of the other one. -/
  mainView_eq :
    narrow.mainView = wide.mainView.rtake (min wide.mainView.length narrow.scrollback.capacity)
  /-- As many entries are kept as there is room for. -/
  length_eq : narrow.mainView.length = min wide.mainView.length narrow.scrollback.capacity
  /-- The views of errors are the same, and so is which view is on show. -/
  focus_eq : narrow.focus = wide.focus
  /-- As many errors were seen. -/
  errorCount_eq : narrow.errorCount = wide.errorCount
  /-- The same file is on show. -/
  selection_eq : narrow.selection = wide.selection
  /-- Appended text is wanted by both or by none. -/
  follow_eq : narrow.follow = wide.follow
  /-- The filters are the same. -/
  filter_eq : narrow.filter = wide.filter
  /-- The same filter text waits. -/
  typed_eq : narrow.typed = wide.typed
  /-- The connections are in the same state. -/
  connection_eq : narrow.connection = wide.connection
  /-- The same ids were handed out. -/
  classifier_eq : narrow.classifier = wide.classifier
  /-- The same bytes wait for the end of their line. -/
  lines_eq : narrow.lines = wide.lines
  /-- The same messages wait for the server. -/
  outbound_eq : narrow.outbound = wide.outbound

/-- Whatever is done to two sessions, the one that takes lines to be longer forgets old entries
earlier and differs in nothing else. -/
theorem run_keepsEndOf
    (options : SessionOptions)
    {fine coarse : Nat}
    (coarser : fine ≤ coarse)
    (operations : List Operation) :
    KeepsEndOf ((ofOptions { options with bytesPerLine := coarse }).run operations)
      ((ofOptions { options with bytesPerLine := fine }).run operations) := by
  have narrows := (narrows_ofOptions options coarser).run operations
  refine ⟨?_, ?_, congrArg (·.focus) narrows.same, congrArg (·.errorCount) narrows.same,
    congrArg (·.selection) narrows.same, congrArg (·.follow) narrows.same, narrows.filter_eq,
    congrArg (·.typed) narrows.same, narrows.connection_eq, narrows.classifier_eq,
    narrows.lines_eq, congrArg (·.outbound) narrows.same⟩
  · rw [narrows.mainView_eq, rtake_min_length]
  · rw [narrows.mainView_eq, length_rtake]

/-- A section with a message of the viewer behind it, which grows after that. -/
def interruptedSection : List Operation :=
  [.receive (.binary "*ERROR* boom\n".toUTF8.toList), .note "still here",
    .receive (.binary "\tat frame\n".toUTF8.toList)]

/-- With room for one entry the section is gone before it grows. -/
theorem run_interruptedSection_keepsEndOf :
    let narrow := (ofOptions { bytesPerLine := 1048576 }).run interruptedSection
    let wide := (ofOptions { bytesPerLine := 1 }).run interruptedSection
    1 ≤ 1048576 ∧ KeepsEndOf narrow wide ∧
      wide.mainView.map (·.text) = ["*ERROR* boom\n\tat frame", "still here"] ∧
      narrow.mainView.map (·.text) = ["still here"] := by
  intro narrow wide
  have coarser : 1 ≤ 1048576 := by decide
  exact ⟨coarser, run_keepsEndOf {} coarser interruptedSection, by decide +kernel,
    by decide +kernel⟩

end Session
end TailView
