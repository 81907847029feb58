import TailView.Proofs.Grouping
import TailView.Proofs.Session.Order

/-!
# Every line is filed once

From the moment a file is opened, and as long as the stream is not reset and nothing is dropped, the
entries of the main view hold exactly the lines that the line buffer has handed out.
-/

namespace TailView

/-- Whether a wish of the user lets the stream go on: it neither starts nor ends one. -/
def Control.keepsStream : Control → Bool
  | .filter _ | .toggleErrorFocus | .quit => true
  | .openFile .. | .toggleFollow | .stop | .reload => false

/-- Whether an operation lets the stream go on: it neither starts nor ends one. -/
def Operation.keepsStream : Operation → Bool
  | .openFile .. | .reload | .stop | .toggleFollow | .connected => false
  | .handle control _ => control.keepsStream
  | _ => true

namespace LineBuffer

/-- What an operation makes of a line buffer, and the lines that it completes. -/
def absorb (buffer : LineBuffer) : Operation → LineBuffer × List String
  | .receive (.binary bytes) => buffer.feed bytes
  | .endStream => (empty, buffer.flush.toList)
  | _ => (buffer, [])

/-- The lines that a line buffer hands out in the course of a history. -/
def assemble (buffer : LineBuffer) : List Operation → List String
  | [] => []
  | operation :: rest =>
      (buffer.absorb operation).2 ++ (buffer.absorb operation).1.assemble rest

end LineBuffer

namespace Session

variable {session other : Session} {entry : Entry} {next : Classifier} {id : EntryId}
  {line : String} {rule : SectionRule} {lines : List String}

/-- The number of dropped entries never falls. -/
theorem stable_le_evicted (count : Nat) :
    Stable fun session => count ≤ session.scrollback.evicted where
  addLine := by
    intro session line le
    rcases session.addLine_cases line with ⟨id, _, _, grown⟩ | ⟨entry, next, _, _, entered⟩
    · rw [grown, evicted_growSection]
      exact le
    · rw [entered, evicted_enter]
      exact Nat.le_add_right_of_le le
  note := by
    intro session text le
    rw [note_eq, evicted_enter]
    exact Nat.le_add_right_of_le le
  resetStream := fun _ le => le
  resetView := fun _ le => le
  resize := fun _ _ le => le
  setFilter := fun _ _ le => le
  toggleErrorFocus := fun _ le => le
  around := by
    intro session other le same
    rw [same.scrollback]
    exact le

/-- Nothing is dropped while an entry comes in exactly if there is room for it. -/
theorem length_lt_capacity_of_evicted_eq
    (kept : (session.enter entry next).scrollback.evicted = session.scrollback.evicted) :
    session.mainView.length + 1 ≤ session.scrollback.capacity := by
  rw [evicted_enter] at kept
  omega

/-- The main view after an entry came in for which there was room. -/
theorem mainView_enter_of_evicted_eq
    (ordered : session.Ordered)
    (handsOut : session.classifier.HandsOut entry next)
    (kept : (session.enter entry next).scrollback.evicted = session.scrollback.evicted) :
    (session.enter entry next).mainView =
      session.mainView.map (Scrollback.answeredBy entry) ++ [session.filter.apply entry] := by
  rw [mainView_enter ordered handsOut]
  apply rtake_of_length_le
  rw [List.length_append, List.length_map, List.length_singleton]
  exact length_lt_capacity_of_evicted_eq kept

/-- The main view of a session holds some lines, and the open section is the newest entry from the
log. -/
structure Filing (rule : SectionRule) (lines : List String) (session : Session) : Prop where
  /-- The views are in order. -/
  ordered : session.Ordered
  /-- Sections are recognized by the rule. -/
  rule_eq : session.classifier.rule = rule
  /-- No newline waits. -/
  clean : session.lines.Clean
  /-- The main view holds the lines. -/
  filed : FiledAs rule lines session.mainView
  /-- The open section is the newest entry from the log. -/
  opened : session.classifier.openSection = newestSection? session.mainView

namespace Filing

/-- Of what surrounds the views only the bytes that wait matter. -/
theorem around
    (filing : Filing rule lines session)
    (same : SameViews session other)
    (clean : other.lines.Clean) :
    Filing rule lines other where
  ordered := stable_ordered.around filing.ordered same
  rule_eq := by
    rw [same.classifier]
    exact filing.rule_eq
  clean := clean
  filed := by
    rw [mainView, same.scrollback]
    exact filing.filed
  opened := by
    rw [mainView, same.scrollback, same.classifier]
    exact filing.opened

/-- The lines that wait are not touched by a line that comes in. -/
theorem clean_of_surroundings_eq
    (filing : Filing rule lines session)
    (same : other.surroundings = session.surroundings) :
    other.lines.Clean := by
  have sameLines : other.lines = session.lines := congrArg Surroundings.lines same
  rw [sameLines]
  exact filing.clean

/-- A continuation grows the newest entry from the log, which is the open section. -/
theorem growSection
    (filing : Filing rule lines session)
    (isOpen : session.classifier.openSection = some id)
    (continues : isContinuation line.toList = true)
    (absent : '\n' ∉ line.toList) :
    Filing rule (lines ++ [line]) (session.growSection id line) := by
  have newestIsOpen : newestSection? session.mainView = some id := filing.opened ▸ isOpen
  obtain ⟨before, last, newest, isSection, rfl⟩ := newestSection?_eq_some_iff.mp newestIsOpen
  have keepsKind : ∀ entry, (Timeline.changeAt last.id (grow session.filter line) entry).kind =
      entry.kind := kind_changeAt_grow session.filter
  have keepsId : ∀ entry, (Timeline.changeAt last.id (grow session.filter line) entry).id =
      entry.id := id_changeAt_grow session.filter
  have grownView := mainView_growSection filing.ordered last.id line
  have others : before.map (Timeline.changeAt last.id (grow session.filter line)) = before := by
    apply Timeline.map_changeAt_of_forall_ne
    intro entry member
    have isSublist : (logged session.mainView).Sublist session.mainView := List.filter_sublist
    have increasing := filing.ordered.main.increasing.sublist isSublist
    rw [newest, List.pairwise_append] at increasing
    exact Nat.ne_of_lt (increasing.2.2 entry member last (List.mem_singleton_self last))
  have grownNewest : logged (session.growSection last.id line).mainView =
      before ++ [grow session.filter line last] := by
    rw [grownView, logged_map keepsKind, newest, List.map_append, others, List.map_singleton,
      Timeline.changeAt_same]
  refine ⟨filing.ordered.growSection isOpen line, ?_, ?_, ?_, ?_⟩
  · rw [classifier_growSection]
    exact filing.rule_eq
  · exact filing.clean_of_surroundings_eq (surroundings_growSection session last.id line)
  · apply filing.filed.grow newest grownNewest ?_ isSection isSection
      (Entry.lines_addLine last absent) continues
    rw [grownView, List.forall_mem_map]
    simpa only [keepsKind] using filing.filed.stored
  · rw [classifier_growSection, grownView, newestSection?_map keepsKind keepsId]
    exact filing.opened

/-- A line that does not continue the open section comes in as an entry. -/
theorem enter
    (filing : Filing rule lines session)
    (files : session.classifier.Files line entry next)
    (closes : session.classifier.openSection.isSome → isContinuation line.toList = false)
    (absent : '\n' ∉ line.toList)
    (kept : (session.enter entry next).scrollback.evicted = session.scrollback.evicted) :
    Filing rule (lines ++ [line]) (session.enter entry next) := by
  have keepsKind := Scrollback.kind_answeredBy entry
  have keepsId := Scrollback.id_answeredBy entry
  have keepsText := Scrollback.text_answeredBy entry
  have entered := mainView_enter_of_evicted_eq filing.ordered files.toHandsOut kept
  have isLogged : (session.filter.apply entry).kind ≠ .info := files.logged
  have held : (session.filter.apply entry).lines = [line] := by
    rw [Entry.lines, Filter.apply, files.text_eq]
    exact Text.lines_of_not_mem absent
  refine ⟨filing.ordered.enter files.toHandsOut, ?_, ?_, ?_, ?_⟩
  · rw [classifier_enter, files.rule_eq]
    exact filing.rule_eq
  · exact filing.clean_of_surroundings_eq (surroundings_enter session entry next)
  · rw [entered]
    apply (filing.filed.map keepsKind keepsText).file isLogged files.stored held
    · rw [← filing.rule_eq]
      exact files.isSection_iff
    · rw [newestSection?_map keepsKind keepsId, ← filing.opened]
      exact closes
  · rw [entered, classifier_enter, newestSection?_append_of_logged isLogged]
    change next.openSection = if entry.isSection then some entry.id else none
    cases isSection : entry.isSection with
    | true => exact files.opens isSection
    | false => exact files.closes isSection

/-- A message of the viewer comes in without closing the open section. -/
theorem note
    (filing : Filing rule lines session)
    (text : String)
    (kept : (session.note text).scrollback.evicted = session.scrollback.evicted) :
    Filing rule lines (session.note text) := by
  have handsOut := session.classifier.info_handsOut text
  have entered := mainView_enter_of_evicted_eq filing.ordered handsOut kept
  have keepsKind := Scrollback.kind_answeredBy (session.classifier.info text).1
  have keepsId := Scrollback.id_answeredBy (session.classifier.info text).1
  have keepsText := Scrollback.text_answeredBy (session.classifier.info text).1
  refine ⟨filing.ordered.note text, ?_, ?_, ?_, ?_⟩
  · rw [note_eq, classifier_enter]
    exact filing.rule_eq
  · exact filing.clean_of_surroundings_eq (surroundings_note session text)
  · rw [note_eq, entered]
    exact (filing.filed.map keepsKind keepsText).notice rfl
  · rw [note_eq, entered, newestSection?_append_of_info rfl, newestSection?_map keepsKind keepsId,
      classifier_enter]
    exact filing.opened

theorem addLine
    (filing : Filing rule lines session)
    (absent : '\n' ∉ line.toList)
    (kept : (session.addLine line).scrollback.evicted = session.scrollback.evicted) :
    Filing rule (lines ++ [line]) (session.addLine line) := by
  rcases session.addLine_cases line with
    ⟨id, isOpen, continues, grown⟩ | ⟨entry, next, files, closes, entered⟩
  · rw [grown]
    exact filing.growSection isOpen continues absent
  · rw [entered] at kept ⊢
    exact filing.enter files closes absent kept

theorem foldl_addLine
    {added : List String}
    (filing : Filing rule lines session)
    (absent : ∀ line ∈ added, '\n' ∉ line.toList)
    (kept : (added.foldl Session.addLine session).scrollback.evicted =
      session.scrollback.evicted) :
    Filing rule (lines ++ added) (added.foldl Session.addLine session) := by
  induction added generalizing session lines with
  | nil =>
      rw [List.append_nil]
      exact filing
  | cons line rest inductionHypothesis =>
      rw [List.forall_mem_cons] at absent
      rw [List.foldl_cons] at kept ⊢
      -- the number of dropped entries is the same at both ends, so it never changes
      have stable := stable_le_evicted session.scrollback.evicted
      have laterStable := stable_le_evicted (session.addLine line).scrollback.evicted
      have first := stable.addLine session line le_rfl
      have others := laterStable.foldl_addLine le_rfl rest
      have keptFirst : (session.addLine line).scrollback.evicted = session.scrollback.evicted := by
        omega
      have filed := inductionHypothesis (filing.addLine absent.1 keptFirst) absent.2
        (kept.trans keptFirst.symm)
      rw [List.append_assoc] at filed
      exact filed

/-- An operation that completes no line. -/
theorem of_absorb_eq
    {operation : Operation}
    (nothing : session.lines.absorb operation = (session.lines, []))
    (filing : Filing rule lines other ∧ other.lines = session.lines) :
    Filing rule (lines ++ (session.lines.absorb operation).2) other ∧
      other.lines = (session.lines.absorb operation).1 := by
  rw [nothing, List.append_nil]
  exact filing

theorem receive
    (filing : Filing rule lines session)
    (payload : Payload)
    (kept : (session.receive payload).scrollback.evicted = session.scrollback.evicted) :
    Filing rule (lines ++ (session.lines.absorb (.receive payload)).2) (session.receive payload) ∧
      (session.receive payload).lines = (session.lines.absorb (.receive payload)).1 := by
  cases payload with
  | binary bytes =>
      obtain ⟨clean, absent⟩ := LineBuffer.feed_clean filing.clean bytes
      have buffered : Filing rule lines { session with lines := (session.lines.feed bytes).1 } :=
        filing.around ⟨rfl, rfl, rfl, rfl⟩ clean
      refine ⟨buffered.foldl_addLine absent kept, ?_⟩
      have around := surroundings_foldl_addLine
        { session with lines := (session.lines.feed bytes).1 } (session.lines.feed bytes).2
      exact congrArg Surroundings.lines around
  | text notice =>
      apply of_absorb_eq rfl
      rw [Session.receive] at kept ⊢
      split at kept
      · next isPong =>
          rw [if_pos isPong]
          exact ⟨filing, rfl⟩
      · next isNotice =>
          rw [if_neg isNotice]
          exact ⟨filing.note notice kept,
            congrArg Surroundings.lines (surroundings_note session notice)⟩
  | unsupported description =>
      exact of_absorb_eq rfl ⟨filing, rfl⟩

theorem endStream
    (filing : Filing rule lines session)
    (kept : session.endStream.scrollback.evicted = session.scrollback.evicted) :
    Filing rule (lines ++ (session.lines.absorb .endStream).2) session.endStream ∧
      session.endStream.lines = (session.lines.absorb .endStream).1 := by
  rw [LineBuffer.absorb]
  unfold Session.endStream at *
  cases flushed : session.lines.flush with
  | some line =>
      rw [flushed] at kept
      have emptied : Filing rule lines { session with lines := .empty } :=
        filing.around ⟨rfl, rfl, rfl, rfl⟩ List.not_mem_nil
      have absent := LineBuffer.flush_clean filing.clean line flushed
      refine ⟨emptied.addLine absent kept, ?_⟩
      exact congrArg Surroundings.lines (surroundings_addLine { session with lines := .empty } line)
  | none =>
      have nothing : session.lines = .empty := LineBuffer.eq_empty_of_flush flushed
      rw [Option.toList_none, List.append_nil]
      exact ⟨filing, nothing⟩

theorem setFilter (filing : Filing rule lines session) (text : String) :
    Filing rule lines (session.setFilter text) where
  ordered := stable_ordered.setFilter session text filing.ordered
  rule_eq := filing.rule_eq
  clean := filing.clean
  filed := by
    rw [mainView_setFilter]
    exact filing.filed.map (fun _ => rfl) (fun _ => rfl)
  opened := by
    have keepsKind : ∀ entry, ((session.filter.setText text).apply entry).kind = entry.kind :=
      fun _ => rfl
    have keepsId : ∀ entry, ((session.filter.setText text).apply entry).id = entry.id :=
      fun _ => rfl
    rw [mainView_setFilter, newestSection?_map keepsKind keepsId]
    exact filing.opened

theorem pollFilter (filing : Filing rule lines session) (now : Nat) :
    Filing rule lines (session.pollFilter now) ∧
      (session.pollFilter now).lines = session.lines := by
  unfold Session.pollFilter
  split
  · exact ⟨filing.setFilter _, rfl⟩
  · exact ⟨filing, rfl⟩

theorem toggleErrorFocus (filing : Filing rule lines session) :
    Filing rule lines session.toggleErrorFocus :=
  ⟨stable_ordered.toggleErrorFocus session filing.ordered, filing.rule_eq, filing.clean,
    filing.filed, filing.opened⟩

theorem disconnected
    (filing : Filing rule lines session)
    (reason : String)
    (kept : (session.disconnected reason).scrollback.evicted = session.scrollback.evicted) :
    Filing rule lines (session.disconnected reason) ∧
      (session.disconnected reason).lines = session.lines := by
  have closed : Filing rule lines { session with connection := session.connection.closed } :=
    filing.around ⟨rfl, rfl, rfl, rfl⟩ filing.clean
  exact ⟨closed.note _ kept, congrArg Surroundings.lines (surroundings_note _ _)⟩

theorem handle
    (filing : Filing rule lines session)
    {control : Control}
    (keepsStream : control.keepsStream = true)
    (now : Nat) :
    Filing rule lines (session.handle control now) ∧
      (session.handle control now).lines = session.lines := by
  cases control with
  | openFile file amount => cases keepsStream
  | filter pattern => exact ⟨filing.around ⟨rfl, rfl, rfl, rfl⟩ filing.clean, rfl⟩
  | toggleErrorFocus => exact ⟨filing.toggleErrorFocus, rfl⟩
  | toggleFollow => cases keepsStream
  | stop => cases keepsStream
  | reload => cases keepsStream
  | quit => exact ⟨filing, rfl⟩

/-- The stream goes on with what the operation completes. -/
theorem perform
    {operation : Operation}
    (filing : Filing rule lines session)
    (keepsStream : operation.keepsStream = true)
    (kept : (session.perform operation).scrollback.evicted = session.scrollback.evicted) :
    Filing rule (lines ++ (session.lines.absorb operation).2) (session.perform operation) ∧
      (session.perform operation).lines = (session.lines.absorb operation).1 := by
  cases operation with
  | receive payload => exact filing.receive payload kept
  | endStream => exact filing.endStream kept
  | openFile | reload | stop | toggleFollow | connected => cases keepsStream
  | toggleErrorFocus =>
      exact of_absorb_eq rfl ⟨filing.toggleErrorFocus, rfl⟩
  | setFilter text =>
      exact of_absorb_eq rfl ⟨filing.setFilter text, rfl⟩
  | pollFilter now =>
      exact of_absorb_eq rfl (filing.pollFilter now)
  | handle control now =>
      exact of_absorb_eq rfl (filing.handle keepsStream now)
  | disconnected reason =>
      exact of_absorb_eq rfl (filing.disconnected reason kept)
  | note text =>
      have sameLines := congrArg Surroundings.lines (surroundings_note session text)
      exact of_absorb_eq rfl ⟨filing.note text kept, sameLines⟩
  | typeFilter | dial | heartbeat | takeOutbound | takeUpdates =>
      exact of_absorb_eq rfl ⟨filing.around ⟨rfl, rfl, rfl, rfl⟩ filing.clean, rfl⟩

/-- A history that lets the stream go on and drops nothing files every line. -/
theorem run
    {operations : List Operation}
    (filing : Filing rule lines session)
    (keepsStream : ∀ operation ∈ operations, operation.keepsStream = true)
    (kept : (session.run operations).scrollback.evicted = session.scrollback.evicted) :
    Filing rule (lines ++ session.lines.assemble operations) (session.run operations) := by
  induction operations generalizing session lines with
  | nil =>
      rw [LineBuffer.assemble, List.append_nil]
      exact filing
  | cons operation rest inductionHypothesis =>
      rw [List.forall_mem_cons] at keepsStream
      have runEq : session.run (operation :: rest) = (session.perform operation).run rest := rfl
      rw [runEq] at kept ⊢
      have stable := stable_le_evicted session.scrollback.evicted
      have laterStable := stable_le_evicted (session.perform operation).scrollback.evicted
      have first := stable.perform (le_refl _) operation
      have others := laterStable.run (le_refl _) rest
      have keptFirst :
          (session.perform operation).scrollback.evicted = session.scrollback.evicted := by
        omega
      obtain ⟨filed, sameLines⟩ := filing.perform keepsStream.1 keptFirst
      have filedRest := inductionHypothesis filed keepsStream.2 (kept.trans keptFirst.symm)
      rw [sameLines, List.append_assoc] at filedRest
      exact filedRest

end Filing

/-- Nothing is filed when a file has just been opened. -/
theorem filing_openFile (session : Session) (file : String) (amount : Amount) :
    Filing session.classifier.rule [] (session.openFile file amount) where
  ordered := ⟨InOrder.nil nofun, InOrder.nil nofun, nofun,
    session.resetView.scrollback.capacity_setCapacity_pos _⟩
  rule_eq := rfl
  clean := List.not_mem_nil
  filed := FiledAs.nil _
  opened := rfl

/-- As long as nothing is dropped, the lines of the log that came in since a file was opened are in
the main view, each one once and in order, and they are grouped in the only way in which every
section is as long as possible. -/
theorem filedAs_run_openFile
    (start : Session)
    (file : String)
    (amount : Amount)
    (operations : List Operation)
    (keepsStream : ∀ operation ∈ operations, operation.keepsStream = true)
    (kept : ((start.openFile file amount).run operations).scrollback.evicted =
      (start.openFile file amount).scrollback.evicted) :
    let view := ((start.openFile file amount).run operations).mainView
    let lines := LineBuffer.empty.assemble operations
    FiledAs start.classifier.rule lines view ∧
      ∀ groups, Munched start.classifier.rule groups ∧ groups.flatten = lines ↔
        groups = (logged view).map Entry.lines := by
  intro view lines
  have filing := (filing_openFile start file amount).run keepsStream kept
  have filed : FiledAs start.classifier.rule lines view := filing.filed
  have flattened : ((logged view).map Entry.lines).flatten = lines := by
    rw [← List.flatMap_def]
    exact filed.lines_eq
  refine ⟨filed, ?_⟩
  intro groups
  constructor
  · rintro ⟨munched, same⟩
    exact munched.eq_of_flatten_eq filed.munched (same.trans flattened.symm)
  · rintro rfl
    exact ⟨filed.munched, flattened⟩

/-- A log whose first section is cut by a chunk end, interrupted by a message of the viewer, and
goes on with a marked line, an empty line and, at last, a line without newline. -/
def interruptedLog : List Operation :=
  [.receive (.binary "start\n*ERROR* boom\n1 fr".toUTF8.toList), .note "still here",
    .receive (.binary "ame\n2 *ERROR*\n\nend\n*ERROR* last".toUTF8.toList), .toggleErrorFocus,
    .endStream]

theorem filedAs_run_openFile_interruptedLog :
    let opened := (ofOptions {}).openFile "app.log" .standard
    let view := (opened.run interruptedLog).mainView
    let lines := LineBuffer.empty.assemble interruptedLog
    (∀ operation ∈ interruptedLog, operation.keepsStream = true) ∧
      (opened.run interruptedLog).scrollback.evicted = opened.scrollback.evicted ∧
      (FiledAs .errorOnly lines view ∧
        ∀ groups, Munched .errorOnly groups ∧ groups.flatten = lines ↔
          groups = (logged view).map Entry.lines) ∧
      (logged view).map Entry.lines =
        [["start"], ["*ERROR* boom", "1 frame", "2 *ERROR*", ""], ["end"], ["*ERROR* last"]] := by
  intro opened view lines
  have keepsStream : ∀ operation ∈ interruptedLog, operation.keepsStream = true := by decide
  have kept : (opened.run interruptedLog).scrollback.evicted = opened.scrollback.evicted := by
    decide +kernel
  exact ⟨keepsStream, kept,
    filedAs_run_openFile (ofOptions {}) "app.log" .standard interruptedLog keepsStream kept,
    by decide +kernel⟩

end Session
end TailView
