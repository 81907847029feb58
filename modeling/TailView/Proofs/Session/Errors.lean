import TailView.Proofs.ErrorLog
import TailView.Proofs.Session.Grouping

/-!
# The view of errors

The view of errors is a second store with copies of its own.  After every history it holds exactly
the error sections that the log has opened since the views were last emptied, each with all its
lines, also those that came when the main view had dropped the section; and whatever both views hold
is the same in both.
-/

namespace TailView
namespace Session

variable {session other : Session} {entry : Entry} {next : Classifier} {id : EntryId}
  {line : String} {recorded : List Entry}

/-! ## Both views hold the same -/

/-- The errors of the main view are in the view of errors, and what both views hold is the same. -/
structure Agreed (session : Session) : Prop where
  /-- The views are in order. -/
  ordered : session.Ordered
  /-- The errors of the main view are in the view of errors. -/
  covered : ∀ entry ∈ session.mainView, entry.isError = true → entry ∈ session.focusView
  /-- What has one id in both views is the same entry. -/
  same : ∀ entry ∈ session.mainView, ∀ copy ∈ session.focusView, entry.id = copy.id → entry = copy

namespace Agreed

/-- Both views are changed alike. -/
theorem of_map
    {change : Entry → Entry}
    (agreed : session.Agreed)
    (ordered : other.Ordered)
    (main : other.mainView = session.mainView.map change)
    (focus : other.focusView = session.focusView.map change)
    (keepsId : ∀ entry, (change entry).id = entry.id)
    (keepsError : ∀ entry, (change entry).isError = entry.isError) :
    other.Agreed where
  ordered := ordered
  covered := by
    rw [main, focus, List.forall_mem_map]
    intro entry member isError
    rw [keepsError] at isError
    exact List.mem_map_of_mem (agreed.covered entry member isError)
  same := by
    simp only [main, focus, List.forall_mem_map, keepsId]
    intro entry member copy copyMember sameId
    rw [agreed.same entry member copy copyMember sameId]

theorem enter
    (agreed : session.Agreed)
    (handsOut : session.classifier.HandsOut entry next) :
    (session.enter entry next).Agreed := by
  have newInMain : ∀ earlier ∈ session.mainView, earlier.id ≠ entry.id := by
    intro earlier member
    rw [handsOut.id_eq]
    exact Nat.ne_of_lt (agreed.ordered.main.below earlier member)
  have newInFocus : ∀ copy ∈ session.focusView, copy.id ≠ entry.id := by
    intro copy member
    rw [handsOut.id_eq]
    exact Nat.ne_of_lt (agreed.ordered.focus.below copy member)
  refine ⟨agreed.ordered.enter handsOut, ?_, ?_⟩
  · intro shown member isError
    rw [mainView_enter agreed.ordered handsOut] at member
    rw [focusView_enter, List.mem_append]
    rcases List.mem_append.mp (mem_of_mem_rtake member) with old | new
    · obtain ⟨earlier, earlierMember, rfl⟩ := List.mem_map.mp old
      rw [Scrollback.isError_answeredBy] at isError
      rw [Scrollback.answeredBy_of_isError isError]
      exact .inl (agreed.covered earlier earlierMember isError)
    · rw [List.mem_singleton.mp new] at isError ⊢
      have entryIsError : entry.isError = true := isError
      rw [if_pos entryIsError]
      exact .inr (List.mem_singleton_self _)
  · intro shown member copy copyMember sameId
    rw [mainView_enter agreed.ordered handsOut] at member
    rw [focusView_enter, List.mem_append, List.mem_ite_nil_right, List.mem_singleton] at copyMember
    rcases List.mem_append.mp (mem_of_mem_rtake member) with old | new
    · obtain ⟨earlier, earlierMember, rfl⟩ := List.mem_map.mp old
      rw [Scrollback.id_answeredBy] at sameId
      rcases copyMember with oldCopy | ⟨_, rfl⟩
      · have equal := agreed.same earlier earlierMember copy oldCopy sameId
        rw [equal, Scrollback.answeredBy_of_isError (agreed.ordered.errors copy oldCopy)]
      · exact absurd sameId (newInMain earlier earlierMember)
    · rw [List.mem_singleton.mp new] at sameId ⊢
      rcases copyMember with oldCopy | ⟨_, rfl⟩
      · exact absurd sameId.symm (newInFocus copy oldCopy)
      · rfl

theorem addLine (agreed : session.Agreed) (line : String) : (session.addLine line).Agreed := by
  rcases session.addLine_cases line with ⟨id, isOpen, _, grown⟩ | ⟨entry, next, files, _, entered⟩
  · rw [grown]
    exact agreed.of_map (agreed.ordered.growSection isOpen line)
      (mainView_growSection agreed.ordered id line)
      (focusView_growSection agreed.ordered isOpen line)
      (id_changeAt_grow _) (isError_changeAt_grow _)
  · rw [entered]
    exact agreed.enter files.toHandsOut

end Agreed

/-- All steps keep the two views in agreement. -/
theorem stable_agreed : Stable Agreed where
  addLine := fun _ line agreed => agreed.addLine line
  note := fun session text agreed => agreed.enter (session.classifier.info_handsOut text)
  resetStream := fun session agreed =>
    ⟨stable_ordered.resetStream session agreed.ordered, agreed.covered, agreed.same⟩
  resetView := fun session agreed =>
    ⟨stable_ordered.resetView session agreed.ordered, List.forall_mem_nil _,
      List.forall_mem_nil _⟩
  resize := fun session capacity agreed =>
    ⟨stable_ordered.resize session capacity agreed.ordered, agreed.covered, agreed.same⟩
  setFilter := fun session text agreed =>
    agreed.of_map (stable_ordered.setFilter session text agreed.ordered)
      (mainView_setFilter session text) (focusView_setFilter session text)
      (fun _ => rfl) (fun _ => rfl)
  toggleErrorFocus := fun session agreed =>
    ⟨stable_ordered.toggleErrorFocus session agreed.ordered, agreed.covered, agreed.same⟩
  around := by
    intro session other agreed same
    refine ⟨stable_ordered.around agreed.ordered same, ?_, ?_⟩ <;>
      rw [mainView, focusView, same.scrollback, same.focus]
    · exact agreed.covered
    · exact agreed.same

/-! ## The view of errors holds the errors of the log -/

/-- Whether an operation empties both views: a file is opened, perhaps again, or the connection is
back and its command is answered from the start. -/
def emptiesViews (session : Session) : Operation → Bool
  | .openFile .. | .handle (.openFile ..) _ => true
  | .reload | .handle .reload _ => session.selection.isSome
  | .toggleFollow | .handle .toggleFollow _ => !session.follow && session.selection.isSome
  | .connected => session.connection.openedBefore && session.connection.current.isSome
  | _ => false

/-- A record of the log, begun when the views were last emptied, after an operation. -/
def recordNext (session : Session) (recorded : List Entry) (operation : Operation) : List Entry :=
  if session.emptiesViews operation then []
  else recorded ++ session.classifier.classifyAll (session.lines.absorb operation).2

/-- A record of the log, begun when the views were last emptied, after a history. -/
def record (session : Session) (recorded : List Entry) : List Operation → List Entry
  | [] => recorded
  | operation :: rest =>
      (session.perform operation).record (session.recordNext recorded operation) rest

/-- An operation that completes no line adds nothing to a record. -/
theorem recordNext_of_absorb_eq_nil
    {operation : Operation}
    (nothing : (session.lines.absorb operation).2 = []) :
    session.recordNext recorded operation =
      if session.emptiesViews operation then [] else recorded := by
  rw [recordNext, nothing, Classifier.classifyAll, List.append_nil]

/-- What comes of a line depends on the line and the classifier only. -/
theorem classifier_addLine (session : Session) (line : String) :
    (session.addLine line).classifier = (session.classifier.classify line).2 := by
  cases found : session.classifier.continued? line with
  | some id => rw [addLine_of_continued found, classifier_growSection, Classifier.classify, found]
  | none => rw [addLine_of_fresh found, classifier_enter, Classifier.classify, found]

/-- It makes no difference whether the filter looks at a section also before it grows. -/
theorem changeAt_grow_apply (filter : Filter) (line : String) (entry : Entry) :
    Timeline.changeAt id (grow filter line) (filter.apply entry) =
      filter.apply (Timeline.changeAt id (·.addLine line) entry) := by
  by_cases same : entry.id = id
  · subst same
    rw [Timeline.changeAt_same]
    exact Timeline.changeAt_same (grow filter line) (filter.apply entry)
  · have sameApplied : (filter.apply entry).id ≠ id := same
    rw [Timeline.changeAt_other _ same, Timeline.changeAt_other _ sameApplied]

/-- The view of errors of a session holds the error sections of a record. -/
structure Records (recorded : List Entry) (session : Session) : Prop where
  /-- The views are in order. -/
  ordered : session.Ordered
  /-- The ids in the record were handed out. -/
  below : ∀ entry ∈ recorded, entry.id < session.classifier.nextId
  /-- The view of errors holds the error sections, looked at by the filter. -/
  focusView_eq : session.focusView = (errorSections recorded).map session.filter.apply

namespace Records

theorem around (records : Records recorded session) (same : SameViews session other) :
    Records recorded other where
  ordered := stable_ordered.around records.ordered same
  below := by
    rw [same.classifier]
    exact records.below
  focusView_eq := by
    rw [focusView, same.focus, same.filter]
    exact records.focusView_eq

/-- A line that continues the open section is recorded, and the section grows. -/
theorem growSection
    (records : Records recorded session)
    (isOpen : session.classifier.openSection = some id)
    (line : String) :
    Records (recorded ++ [{ id, kind := .continuation, text := line }])
      (session.growSection id line) where
  ordered := records.ordered.growSection isOpen line
  below := by
    rw [classifier_growSection, List.forall_mem_append, List.forall_mem_singleton]
    exact ⟨records.below, records.ordered.focus.openBelow id isOpen⟩
  focusView_eq := by
    have sameFilter := filter_eq_of_surroundings_eq (surroundings_growSection session id line)
    rw [focusView_growSection records.ordered isOpen, records.focusView_eq, sameFilter,
      errorSections_append_of_continuation rfl, List.map_map, List.map_map]
    exact List.map_congr_left fun head _ => changeAt_grow_apply session.filter line head

/-- The ids in the record are still below the next one when an entry comes in. -/
theorem below_enter
    (records : Records recorded session)
    (handsOut : session.classifier.HandsOut entry next) :
    ∀ other ∈ recorded, other.id < (session.enter entry next).classifier.nextId := by
  intro other member
  rw [classifier_enter, handsOut.nextId_eq]
  exact Nat.lt_succ_of_lt (records.below other member)

/-- An entry that comes in is recorded. -/
theorem enter
    (records : Records recorded session)
    (handsOut : session.classifier.HandsOut entry next) :
    Records (recorded ++ [entry]) (session.enter entry next) where
  ordered := records.ordered.enter handsOut
  below := by
    rw [List.forall_mem_append, List.forall_mem_singleton]
    refine ⟨records.below_enter handsOut, ?_⟩
    rw [classifier_enter, handsOut.nextId_eq, handsOut.id_eq]
    exact Nat.lt_succ_self _
  focusView_eq := by
    have sameFilter := filter_eq_of_surroundings_eq (surroundings_enter session entry next)
    have unused : ∀ other ∈ recorded, other.id ≠ entry.id := by
      intro other member
      rw [handsOut.id_eq]
      exact Nat.ne_of_lt (records.below other member)
    rw [focusView_enter, records.focusView_eq, sameFilter,
      errorSections_append_of_stored handsOut.stored unused, List.map_append]
    split <;> rfl

theorem addLine (records : Records recorded session) (line : String) :
    Records (recorded ++ [(session.classifier.classify line).1]) (session.addLine line) := by
  cases found : session.classifier.continued? line with
  | some id =>
      obtain ⟨_, isOpen⟩ := Classifier.continued?_eq_some_iff.mp found
      rw [addLine_of_continued found, Classifier.classify, found]
      exact records.growSection isOpen line
  | none =>
      rw [addLine_of_fresh found, Classifier.classify, found]
      exact records.enter (session.classifier.classifyFresh_files line).toHandsOut

theorem foldl_addLine (records : Records recorded session) (lines : List String) :
    Records (recorded ++ session.classifier.classifyAll lines)
      (lines.foldl Session.addLine session) := by
  induction lines generalizing session recorded with
  | nil =>
      rw [Classifier.classifyAll, List.append_nil]
      exact records
  | cons line rest inductionHypothesis =>
      have recordedRest := inductionHypothesis (records.addLine line)
      rw [classifier_addLine, List.append_assoc] at recordedRest
      exact recordedRest

/-- A message of the viewer is no error, so the record stays as it is. -/
theorem note (records : Records recorded session) (text : String) :
    Records recorded (session.note text) where
  ordered := records.ordered.note text
  below := records.below_enter (session.classifier.info_handsOut text)
  focusView_eq := by
    have sameFilter := filter_eq_of_surroundings_eq (surroundings_note session text)
    rw [note_eq, focusView_enter, ← note_eq, sameFilter, records.focusView_eq]
    exact List.append_nil _

theorem receive (records : Records recorded session) (payload : Payload) :
    Records (recorded ++
      session.classifier.classifyAll (session.lines.absorb (.receive payload)).2)
      (session.receive payload) := by
  cases payload with
  | binary bytes =>
      have buffered : Records recorded { session with lines := (session.lines.feed bytes).1 } :=
        records.around ⟨rfl, rfl, rfl, rfl⟩
      exact buffered.foldl_addLine (session.lines.feed bytes).2
  | text notice =>
      have nothing : (session.lines.absorb (.receive (.text notice))).2 = [] := rfl
      rw [nothing, Classifier.classifyAll, List.append_nil, Session.receive]
      split
      · exact records
      · exact records.note notice
  | unsupported description =>
      have nothing : (session.lines.absorb (.receive (.unsupported description))).2 = [] := rfl
      rw [nothing, Classifier.classifyAll, List.append_nil]
      exact records

theorem endStream (records : Records recorded session) :
    Records (recorded ++ session.classifier.classifyAll (session.lines.absorb .endStream).2)
      session.endStream := by
  rw [LineBuffer.absorb]
  unfold Session.endStream
  cases session.lines.flush with
  | some line =>
      have emptied : Records recorded { session with lines := .empty } :=
        records.around ⟨rfl, rfl, rfl, rfl⟩
      exact emptied.addLine line
  | none =>
      rw [Option.toList_none, Classifier.classifyAll, List.append_nil]
      exact records

theorem setFilter (records : Records recorded session) (text : String) :
    Records recorded (session.setFilter text) where
  ordered := stable_ordered.setFilter session text records.ordered
  below := records.below
  focusView_eq := by
    rw [focusView_setFilter, records.focusView_eq, List.map_map]
    rfl

theorem pollFilter (records : Records recorded session) (now : Nat) :
    Records recorded (session.pollFilter now) := by
  unfold Session.pollFilter
  split
  · exact records.setFilter _
  · exact records

theorem toggleErrorFocus (records : Records recorded session) :
    Records recorded session.toggleErrorFocus :=
  ⟨stable_ordered.toggleErrorFocus session records.ordered, records.below, records.focusView_eq⟩

/-- The record goes on when the stream ends, since the views stay. -/
theorem stop (records : Records recorded session) : Records recorded session.stop :=
  ⟨stable_ordered.stop records.ordered, records.below, records.focusView_eq⟩

/-- A new record begins when both views are emptied. -/
theorem resetView (ordered : session.Ordered) : Records [] session.resetView :=
  ⟨stable_ordered.resetView session ordered, List.forall_mem_nil _, rfl⟩

theorem openFile (ordered : session.Ordered) (file : String) (amount : Amount) :
    Records [] (session.openFile file amount) :=
  ⟨stable_ordered.openFile ordered file amount, List.forall_mem_nil _, rfl⟩

theorem reload (records : Records recorded session) :
    Records (if session.selection.isSome then [] else recorded) session.reload := by
  unfold Session.reload
  cases session.selection with
  | some selection => exact openFile records.ordered selection.file selection.amount
  | none => exact records

theorem toggleFollow (records : Records recorded session) :
    Records (if !session.follow && session.selection.isSome then [] else recorded)
      session.toggleFollow := by
  unfold Session.toggleFollow
  cases session.follow with
  | true => exact records.stop
  | false =>
      have followed : Records recorded { session with follow := true } :=
        records.around ⟨rfl, rfl, rfl, rfl⟩
      exact followed.reload

theorem connected (records : Records recorded session) :
    Records (if session.connection.openedBefore && session.connection.current.isSome then []
      else recorded) session.connected := by
  unfold Session.connected
  split
  · exact (resetView records.ordered).around ⟨rfl, rfl, rfl, rfl⟩
  · exact records.around ⟨rfl, rfl, rfl, rfl⟩

theorem disconnected (records : Records recorded session) (reason : String) :
    Records recorded (session.disconnected reason) := by
  have closed : Records recorded { session with connection := session.connection.closed } :=
    records.around ⟨rfl, rfl, rfl, rfl⟩
  exact closed.note _

theorem handle (records : Records recorded session) (control : Control) (now : Nat) :
    Records (session.recordNext recorded (.handle control now)) (session.handle control now) := by
  rw [recordNext_of_absorb_eq_nil rfl]
  cases control with
  | openFile file amount => exact openFile records.ordered file amount
  | filter pattern => exact records.around ⟨rfl, rfl, rfl, rfl⟩
  | toggleErrorFocus => exact records.toggleErrorFocus
  | toggleFollow => exact records.toggleFollow
  | stop => exact records.stop
  | reload => exact records.reload
  | quit => exact records

/-- After an operation the view of errors holds the error sections of the next record. -/
theorem perform (records : Records recorded session) (operation : Operation) :
    Records (session.recordNext recorded operation) (session.perform operation) := by
  cases operation with
  | receive payload => exact records.receive payload
  | endStream => exact records.endStream
  | handle control now => exact records.handle control now
  | openFile file amount => exact openFile records.ordered file amount
  | reload =>
      rw [recordNext_of_absorb_eq_nil rfl]
      exact records.reload
  | toggleFollow =>
      rw [recordNext_of_absorb_eq_nil rfl]
      exact records.toggleFollow
  | connected =>
      rw [recordNext_of_absorb_eq_nil rfl]
      exact records.connected
  | stop =>
      rw [recordNext_of_absorb_eq_nil rfl]
      exact records.stop
  | toggleErrorFocus =>
      rw [recordNext_of_absorb_eq_nil rfl]
      exact records.toggleErrorFocus
  | setFilter text =>
      rw [recordNext_of_absorb_eq_nil rfl]
      exact records.setFilter text
  | pollFilter now =>
      rw [recordNext_of_absorb_eq_nil rfl]
      exact records.pollFilter now
  | disconnected reason =>
      rw [recordNext_of_absorb_eq_nil rfl]
      exact records.disconnected reason
  | note text =>
      rw [recordNext_of_absorb_eq_nil rfl]
      exact records.note text
  | typeFilter | dial | heartbeat | takeOutbound | takeUpdates =>
      rw [recordNext_of_absorb_eq_nil rfl]
      exact records.around ⟨rfl, rfl, rfl, rfl⟩

theorem run (records : Records recorded session) (operations : List Operation) :
    Records (session.record recorded operations) (session.run operations) := by
  induction operations generalizing session recorded with
  | nil => exact records
  | cons operation rest inductionHypothesis =>
      exact inductionHypothesis (records.perform operation)

end Records

/-! ## The views never drift apart -/

/-- The view of errors mirrors the errors of the main view and of a record of the log. -/
structure MirrorsErrors (recorded : List Entry) (session : Session) : Prop where
  /-- The ids in the view of errors increase. -/
  increasing : session.focusView.Pairwise fun first second => first.id < second.id
  /-- The error sections of the main view are in the view of errors. -/
  covers : ∀ entry ∈ session.mainView, entry.kind = .sectionHead → entry.severity = some .error →
    entry ∈ session.focusView
  /-- What has one id in both views is the same entry. -/
  agrees : ∀ entry ∈ session.mainView, ∀ copy ∈ session.focusView,
    entry.id = copy.id → entry = copy
  /-- Nothing but error sections is in the view of errors. -/
  errors : ∀ entry ∈ session.focusView,
    entry.kind = .sectionHead ∧ entry.severity = some .error
  /-- The view of errors holds the error sections of the log, looked at by the filter. -/
  focusView_eq : session.focusView = (errorSections recorded).map session.filter.apply
  /-- As many errors are counted as the log has error sections. -/
  errorCount_eq : session.errorCount = (errorSections recorded).length

theorem Records.mirrorsErrors (records : Records recorded session) (agreed : session.Agreed) :
    MirrorsErrors recorded session where
  increasing := records.ordered.focus.increasing
  covers := by
    intro entry member isSection isSevere
    exact agreed.covered entry member (Entry.isError_iff.mpr ⟨isSection, isSevere⟩)
  agrees := agreed.same
  errors := by
    intro entry member
    exact Entry.isError_iff.mp (records.ordered.errors entry member)
  focusView_eq := records.focusView_eq
  errorCount_eq := by
    have sameLength := congrArg List.length records.focusView_eq
    rw [List.length_map] at sameLength
    exact sameLength

theorem agreed_ofOptions (options : SessionOptions) : (ofOptions options).Agreed :=
  ⟨ordered_ofOptions options, List.forall_mem_nil _, List.forall_mem_nil _⟩

theorem records_ofOptions (options : SessionOptions) : Records [] (ofOptions options) :=
  ⟨ordered_ofOptions options, List.forall_mem_nil _, rfl⟩

/-- After every history the view of errors holds exactly the error sections that the log has opened
since the views were last emptied, with all their lines, and agrees with the main view. -/
theorem mirrorsErrors_run (options : SessionOptions) (operations : List Operation) :
    MirrorsErrors ((ofOptions options).record [] operations)
      ((ofOptions options).run operations) :=
  ((records_ofOptions options).run operations).mirrorsErrors
    (stable_agreed.run (agreed_ofOptions options) operations)

/-- With room for one entry the main view drops a section that goes on in the view of errors. -/
example :
    let session := (ofOptions { bytesPerLine := 1048576 }).run
      [.receive (.binary "*ERROR* boom\n".toUTF8.toList), .note "still here",
        .receive (.binary "\tat frame\n".toUTF8.toList)]
    session.mainView.map (·.text) = ["still here"] ∧
      session.focusView.map (·.text) = ["*ERROR* boom\n\tat frame"] := by
  decide +kernel

end Session
end TailView
