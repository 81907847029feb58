import Mathlib.Data.List.Induction
import TailView.Proofs.Session.Order

/-!
# Which entries are seen

After every history each entry is seen exactly if the filter lets its whole text be seen, also when
it has grown line by line or was copied into the view of errors.  The filter itself depends only on
the texts that were made the filter: the last one if it is accepted, and no filter at all if it is
not.
-/

namespace TailView

namespace Filter

variable {filter : Filter} {text : String}

/-- Whether a text is accepted as a filter: it is empty or can be compiled. -/
def accepts (filter : Filter) (text : String) : Bool :=
  text.isEmpty || (filter.compile text).isOk

/-- Whether a filter text matches somewhere in a text. -/
def Matches (filter : Filter) (pattern text : String) : Prop :=
  ∃ compiled, filter.compile pattern = .ok compiled ∧ compiled.isMatch text = true

/-- Of several filter texts the last accepted one, if that is not empty. -/
def lastAccepted (filter : Filter) (texts : List String) : Option String :=
  (texts.filter filter.accepts).getLast?.filter fun text => !text.isEmpty

/-- The filter that results from setting texts one after the other. -/
structure ResultsFrom (start : Filter) (texts : List String) (filter : Filter) : Prop where
  /-- How texts are understood does not change. -/
  compile_eq : filter.compile = start.compile
  /-- The last accepted text is remembered. -/
  pattern_eq : filter.pattern = start.lastAccepted texts
  /-- What is remembered with it is its compiled form. -/
  compiled_eq : ∀ pattern compiled, filter.accepted = some (pattern, compiled) →
    start.compile pattern = .ok compiled
  /-- The last text is kept as the error if it was refused. -/
  rejected : ∀ text, texts.getLast? = some text → start.accepts text = false →
    ∃ fault, start.compile text = .error fault ∧ filter.rejection = some ⟨text, fault⟩
  /-- Otherwise there is no error. -/
  notRejected : (∀ text, texts.getLast? = some text → start.accepts text = true) →
    filter.rejection = none

theorem lastAccepted_concat (filter : Filter) (texts : List String) (text : String) :
    filter.lastAccepted (texts ++ [text]) =
      if filter.accepts text then (if text.isEmpty then none else some text)
      else filter.lastAccepted texts := by
  unfold lastAccepted
  rw [List.filter_append]
  cases accepted : filter.accepts text with
  | false => simp [accepted]
  | true =>
      rw [List.filter_cons_of_pos accepted, List.filter_nil, List.getLast?_concat,
        Option.filter_some]
      cases text.isEmpty <;> rfl

/-- Setting one more text gives the filter that results from all of them. -/
theorem ResultsFrom.setText
    {start : Filter}
    {texts : List String}
    (results : ResultsFrom start texts filter)
    (text : String) :
    ResultsFrom start (texts ++ [text]) (filter.setText text) := by
  have last : ∀ other, (texts ++ [text]).getLast? = some other → other = text := by
    intro other isLast
    simpa using isLast.symm
  cases empty : text.isEmpty with
  | true =>
      have accepted : start.accepts text = true := by simp [accepts, empty]
      have cleared : filter.setText text = { filter with accepted := none, rejection := none } := by
        simp [Filter.setText, empty]
      rw [cleared]
      refine ⟨results.compile_eq, ?_, nofun, ?_, fun _ => rfl⟩
      · rw [lastAccepted_concat, accepted, empty]
        rfl
      · intro other isLast refused
        rw [last other isLast, accepted] at refused
        cases refused
  | false =>
      cases compiles : start.compile text with
      | ok compiled =>
          have accepted : start.accepts text = true := by
            simp [accepts, compiles, Except.isOk, Except.toBool]
          have set : filter.setText text =
              { filter with accepted := some (text, compiled), rejection := none } := by
            simp [Filter.setText, empty, results.compile_eq, compiles]
          rw [set]
          refine ⟨results.compile_eq, ?_, ?_, ?_, fun _ => rfl⟩
          · rw [lastAccepted_concat, accepted, empty]
            rfl
          · intro pattern other same
            cases same
            exact compiles
          · intro other isLast refused
            rw [last other isLast, accepted] at refused
            cases refused
      | error fault =>
          have refused : start.accepts text = false := by
            simp [accepts, empty, compiles, Except.isOk, Except.toBool]
          have kept : filter.setText text = { filter with rejection := some ⟨text, fault⟩ } := by
            simp [Filter.setText, empty, results.compile_eq, compiles]
          rw [kept]
          refine ⟨results.compile_eq, ?_, results.compiled_eq, ?_, ?_⟩
          · rw [lastAccepted_concat, refused]
            exact results.pattern_eq
          · intro other isLast _
            rw [last other isLast]
            exact ⟨fault, compiles, rfl⟩
          · intro allAccepted
            have accepted := allAccepted text (by simp)
            rw [refused] at accepted
            cases accepted

/-- A filter that nothing was set in results from no texts; then each text counts. -/
theorem resultsFrom_foldl_setText
    (unset : filter.accepted = none)
    (undisturbed : filter.rejection = none)
    (texts : List String) :
    ResultsFrom filter texts (texts.foldl Filter.setText filter) := by
  induction texts using List.reverseRecOn with
  | nil => exact ⟨rfl, by simp [pattern, unset, lastAccepted], by simp [unset], nofun,
      fun _ => undisturbed⟩
  | append_singleton texts text inductionHypothesis =>
      rw [List.foldl_append]
      exact inductionHypothesis.setText text

/-- A disabled filter lets everything be seen. -/
theorem isVisible_of_rejection
    {rejection : Rejection}
    (disabled : filter.rejection = some rejection)
    (text : String) :
    filter.isVisible text = true := by
  simp [isVisible, active, disabled]

/-- A filter without an error lets exactly the matching texts be seen. -/
theorem ResultsFrom.isVisible_iff
    {start : Filter}
    {texts : List String}
    (results : ResultsFrom start texts filter)
    (enabled : filter.rejection = none)
    (text : String) :
    filter.isVisible text = true ↔
      ∀ pattern, start.lastAccepted texts = some pattern → start.Matches pattern text := by
  rw [← results.pattern_eq]
  unfold isVisible active pattern
  cases accepted : filter.accepted with
  | none => simp [enabled]
  | some both =>
      obtain ⟨pattern, compiled⟩ := both
      have compiles := results.compiled_eq pattern compiled accepted
      simp [enabled, Matches, compiles]

end Filter

namespace Session

variable {session : Session} {entry : Entry} {next : Classifier} {id : EntryId} {line : String}

/-! ## What the filter results from -/

/-- The text that an operation makes the filter, if it makes one: a text that is set, or a typed one
that is due. -/
def filterText? (session : Session) : Operation → Option String
  | .setFilter text => some text
  | .pollFilter now => (session.typed.poll now).1
  | _ => none

/-- The texts that a history makes the filter, in order. -/
def filterTexts (session : Session) : List Operation → List String
  | [] => []
  | operation :: rest =>
      (session.filterText? operation).toList ++ (session.perform operation).filterTexts rest

theorem filter_reload (session : Session) : session.reload.filter = session.filter := by
  unfold reload
  split <;> rfl

theorem filter_toggleFollow (session : Session) : session.toggleFollow.filter = session.filter := by
  unfold toggleFollow
  split
  · rfl
  · rw [filter_reload]

theorem filter_connected (session : Session) : session.connected.filter = session.filter := by
  unfold connected
  split <;> rfl

theorem filter_note (session : Session) (text : String) :
    (session.note text).filter = session.filter :=
  filter_eq_of_surroundings_eq (surroundings_note session text)

theorem surroundings_eq_of_lines
    {other : Session}
    {lines : LineBuffer}
    (kept : other.surroundings = { session with lines }.surroundings) :
    other.surroundings = { session.surroundings with lines := other.lines } := by
  have sameLines : other.lines = lines := congrArg Surroundings.lines kept
  rw [kept, sameLines]
  rfl

/-- What arrives leaves alone what surrounds the views, but for the bytes that wait. -/
theorem surroundings_receive (session : Session) (payload : Payload) :
    (session.receive payload).surroundings =
      { session.surroundings with lines := (session.receive payload).lines } := by
  cases payload with
  | binary bytes => exact surroundings_eq_of_lines (surroundings_foldl_addLine _ _)
  | text notice =>
      rw [receive]
      split
      · rfl
      · exact surroundings_eq_of_lines (surroundings_note session notice)
  | unsupported description => rfl

/-- The end of the stream leaves it alone in the same way. -/
theorem surroundings_endStream (session : Session) :
    session.endStream.surroundings =
      { session.surroundings with lines := session.endStream.lines } := by
  unfold endStream
  split
  · next line flushed => exact surroundings_eq_of_lines (surroundings_addLine _ line)
  · rfl

theorem filter_receive (session : Session) (payload : Payload) :
    (session.receive payload).filter = session.filter :=
  congrArg Surroundings.filter (surroundings_receive session payload)

theorem filter_endStream (session : Session) : session.endStream.filter = session.filter :=
  congrArg Surroundings.filter (surroundings_endStream session)

/-- An operation sets the filter to its filter text, if it has one, and leaves it alone if not. -/
theorem filter_perform (session : Session) (operation : Operation) :
    (session.perform operation).filter =
      (session.filterText? operation).toList.foldl Filter.setText session.filter := by
  cases operation with
  | openFile file amount => rfl
  | reload => exact filter_reload session
  | stop => rfl
  | toggleFollow => exact filter_toggleFollow session
  | toggleErrorFocus => rfl
  | setFilter text => rfl
  | typeFilter text now => rfl
  | pollFilter now =>
      simp only [perform, pollFilter, filterText?]
      split <;> simp_all [setFilter, announce]
  | handle control now =>
      cases control with
      | openFile file amount => rfl
      | filter pattern => rfl
      | toggleErrorFocus => rfl
      | toggleFollow => exact filter_toggleFollow session
      | stop => rfl
      | reload => exact filter_reload session
      | quit => rfl
  | connected => exact filter_connected session
  | dial => rfl
  | disconnected reason => exact filter_note _ _
  | heartbeat => rfl
  | receive payload => exact filter_receive session payload
  | endStream => exact filter_endStream session
  | note text => exact filter_note session text
  | takeOutbound => rfl
  | takeUpdates => rfl

/-- A history sets its filter texts one after the other. -/
theorem filter_run (session : Session) (operations : List Operation) :
    (session.run operations).filter =
      (session.filterTexts operations).foldl Filter.setText session.filter := by
  induction operations generalizing session with
  | nil => rfl
  | cons operation rest inductionHypothesis =>
      rw [filterTexts, List.foldl_append, ← filter_perform]
      exact inductionHypothesis (session.perform operation)

/-! ## Every entry is looked at by the filter -/

/-- The entries of both views are seen exactly if the filter lets their text be seen. -/
def Filtered (session : Session) : Prop :=
  ∀ entry ∈ session.mainView ++ session.focusView,
    entry.visible = session.filter.isVisible entry.text

/-- A section that grows is looked at again; other entries stay as they are. -/
theorem visible_changeAt_grow
    {filter : Filter}
    (before : entry.visible = filter.isVisible entry.text) :
    (Timeline.changeAt id (grow filter line) entry).visible =
      filter.isVisible (Timeline.changeAt id (grow filter line) entry).text := by
  unfold Timeline.changeAt
  split
  · rfl
  · exact before

theorem Filtered.growSection
    (filtered : session.Filtered)
    (ordered : session.Ordered)
    (isOpen : session.classifier.openSection = some id)
    (line : String) :
    (session.growSection id line).Filtered := by
  intro entry member
  rw [mainView_growSection ordered, focusView_growSection ordered isOpen,
    ← List.map_append] at member
  obtain ⟨before, beforeMember, rfl⟩ := List.mem_map.mp member
  rw [filter_eq_of_surroundings_eq (surroundings_growSection session id line)]
  exact visible_changeAt_grow (filtered before beforeMember)

theorem Filtered.enter
    (filtered : session.Filtered)
    (ordered : session.Ordered)
    (handsOut : session.classifier.HandsOut entry next) :
    (session.enter entry next).Filtered := by
  intro other member
  rw [filter_eq_of_surroundings_eq (surroundings_enter session entry next)]
  rw [mainView_enter ordered handsOut, focusView_enter, List.mem_append] at member
  rcases member with inMain | inFocus
  · rcases List.mem_append.mp (mem_of_mem_rtake inMain) with old | new
    · obtain ⟨before, beforeMember, rfl⟩ := List.mem_map.mp old
      obtain ⟨counterpart, same⟩ := Scrollback.answeredBy_eq entry before
      rw [same]
      exact filtered before (List.mem_append_left _ beforeMember)
    · rw [List.mem_singleton.mp new]
      rfl
  · rcases List.mem_append.mp inFocus with old | new
    · exact filtered other (List.mem_append_right _ old)
    · split at new
      · rw [List.mem_singleton.mp new]
        rfl
      · cases new

/-- All steps preserve that every entry is looked at by the filter. -/
theorem stable_filtered : Stable fun session => session.Ordered ∧ session.Filtered where
  addLine := by
    rintro session line ⟨ordered, filtered⟩
    refine ⟨ordered.addLine line, ?_⟩
    rcases session.addLine_cases line with
      ⟨id, isOpen, _, grown⟩ | ⟨entry, next, files, _, entered⟩
    · rw [grown]
      exact filtered.growSection ordered isOpen line
    · rw [entered]
      exact filtered.enter ordered files.toHandsOut
  note := by
    rintro session text ⟨ordered, filtered⟩
    exact ⟨ordered.note text, filtered.enter ordered (session.classifier.info_handsOut text)⟩
  resetStream := fun session ⟨ordered, filtered⟩ =>
    ⟨stable_ordered.resetStream session ordered, filtered⟩
  resetView := fun session ⟨ordered, _⟩ => ⟨stable_ordered.resetView session ordered, nofun⟩
  resize := fun session capacity ⟨ordered, filtered⟩ =>
    ⟨stable_ordered.resize session capacity ordered, filtered⟩
  setFilter := by
    rintro session text ⟨ordered, _⟩
    refine ⟨stable_ordered.setFilter session text ordered, ?_⟩
    intro entry member
    rw [mainView_setFilter, focusView_setFilter, ← List.map_append] at member
    obtain ⟨before, _, rfl⟩ := List.mem_map.mp member
    rfl
  toggleErrorFocus := fun session ⟨ordered, filtered⟩ =>
    ⟨stable_ordered.toggleErrorFocus session ordered, filtered⟩
  around := by
    rintro session other ⟨ordered, filtered⟩ same
    refine ⟨stable_ordered.around ordered same, ?_⟩
    unfold Filtered mainView focusView
    rw [same.scrollback, same.focus, same.filter]
    exact filtered

/-- After every history each entry of both views is seen exactly if the filter lets its whole text
be seen.  If the text that was last made the filter was refused, it is the error, the accepted text
before it is remembered, and all entries are seen; otherwise there is no error, and exactly the
entries are seen that the last accepted text matches. -/
theorem visible_eq_isVisible_run (options : SessionOptions) (operations : List Operation) :
    let start := ofOptions options
    let session := start.run operations
    let texts := start.filterTexts operations
    let entries := session.mainView ++ session.focusView
    (∀ entry ∈ entries, entry.visible = session.filter.isVisible entry.text) ∧
      session.filter.pattern = start.filter.lastAccepted texts ∧
      (∀ text, texts.getLast? = some text → start.filter.accepts text = false →
        (∃ fault, start.filter.compile text = .error fault ∧
          session.filter.rejection = some ⟨text, fault⟩) ∧
        ∀ entry ∈ entries, entry.visible = true) ∧
      ((∀ text, texts.getLast? = some text → start.filter.accepts text = true) →
        session.filter.rejection = none ∧
        ∀ entry ∈ entries, entry.visible = true ↔
          ∀ pattern, start.filter.lastAccepted texts = some pattern →
            start.filter.Matches pattern entry.text) := by
  intro start session texts entries
  have filtered : session.Filtered :=
    (stable_filtered.run ⟨ordered_ofOptions options, nofun⟩ operations).2
  have results : Filter.ResultsFrom start.filter texts session.filter := by
    have set : session.filter = texts.foldl Filter.setText start.filter :=
      filter_run start operations
    rw [set]
    exact Filter.resultsFrom_foldl_setText rfl rfl texts
  refine ⟨filtered, results.pattern_eq, ?_, ?_⟩
  · intro text isLast refused
    obtain ⟨fault, fails, disabled⟩ := results.rejected text isLast refused
    refine ⟨⟨fault, fails, disabled⟩, ?_⟩
    intro entry member
    rw [filtered entry member, Filter.isVisible_of_rejection disabled]
  · intro allAccepted
    have enabled := results.notRejected allAccepted
    refine ⟨enabled, ?_⟩
    intro entry member
    rw [filtered entry member]
    exact results.isVisible_iff enabled entry.text

end Session
end TailView
