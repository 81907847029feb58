import TailView.Proofs.Order
import TailView.Session.Operation

/-!
# What a session does to its views

A line either grows the open section or comes in as an entry, and a message of the viewer comes in
as an entry.  For both ways this module says what becomes of the two views, of the queued changes,
and of everything around the views.
-/

namespace TailView
namespace Session

variable {session : Session} {entry : Entry} {next : Classifier} {id : EntryId} {line : String}

/-- The entries of the main view, the oldest first. -/
def mainView (session : Session) : List Entry := session.scrollback.entries.toList

/-- The entries of the view of errors, the oldest first. -/
def focusView (session : Session) : List Entry := session.focus.sections.toList

theorem activeView_eq (session : Session) :
    session.activeView =
      if session.focus.active then session.focusView else session.mainView :=
  rfl

/-- The parts of a session that neither lines nor messages of the viewer touch. -/
structure Surroundings where
  /-- The bytes that wait for the end of their line. -/
  lines : LineBuffer
  /-- The filter of both views. -/
  filter : Filter
  /-- The filter text that was typed but has not taken effect. -/
  typed : Debouncer String
  /-- The connection to the server. -/
  connection : Connection
  /-- Whether appended text is wanted. -/
  follow : Bool
  /-- The file on show. -/
  selection : Option Selection
  /-- The messages for the server that were not taken yet. -/
  outbound : Array String
  /-- Whether the view of errors is on show. -/
  focused : Bool

/-- What surrounds the views of a session. -/
def surroundings (session : Session) : Surroundings where
  lines := session.lines
  filter := session.filter
  typed := session.typed
  connection := session.connection
  follow := session.follow
  selection := session.selection
  outbound := session.outbound
  focused := session.focus.active

/-- The estimated length of a line and the number of entries that the main view keeps. -/
def limits (session : Session) : Nat × Nat :=
  (session.bytesPerLine, session.scrollback.capacity)

theorem capacity_eq_of_limits_eq
    {other : Session}
    (same : session.limits = other.limits) :
    session.scrollback.capacity = other.scrollback.capacity :=
  congrArg Prod.snd same

theorem bytesPerLine_eq_of_limits_eq
    {other : Session}
    (same : session.limits = other.limits) :
    session.bytesPerLine = other.bytesPerLine :=
  congrArg Prod.fst same

/-- The filter is one of the surroundings. -/
theorem filter_eq_of_surroundings_eq
    {other : Session}
    (same : session.surroundings = other.surroundings) :
    session.filter = other.filter :=
  congrArg Surroundings.filter same

/-- The views of a session are in the order in which the classifier handed the entries out. -/
structure Ordered (session : Session) : Prop where
  /-- The main view is in order. -/
  main : InOrder session.classifier session.mainView
  /-- The view of errors is in order. -/
  focus : InOrder session.classifier session.focusView
  /-- The view of errors holds errors only. -/
  errors : ∀ entry ∈ session.focusView, entry.isError = true
  /-- The main view has room for an entry. -/
  room : 0 < session.scrollback.capacity

theorem Ordered.increasing (ordered : session.Ordered) :
    session.scrollback.entries.Increasing :=
  (Timeline.increasing_iff _).mpr ordered.main.increasing

theorem Ordered.focusIncreasing (ordered : session.Ordered) :
    session.focus.sections.Increasing :=
  (Timeline.increasing_iff _).mpr ordered.focus.increasing

/-- The view on show is in order. -/
theorem Ordered.active (ordered : session.Ordered) :
    InOrder session.classifier session.activeView := by
  rw [activeView_eq]
  split
  · exact ordered.focus
  · exact ordered.main

/-- Looking up an id in the view on show finds exactly the entry that has it. -/
theorem Ordered.activeEntry?_eq_some_iff (ordered : session.Ordered) :
    session.activeEntry? id = some entry ↔ entry ∈ session.activeView ∧ entry.id = id := by
  rw [activeView_eq]
  unfold activeEntry?
  split
  · exact Timeline.find?_eq_some_iff ordered.focusIncreasing
  · exact Timeline.find?_eq_some_iff ordered.increasing

/-! ## A section grows -/

/-- A section with one more line, looked at by the filter. -/
def grow (filter : Filter) (line : String) (entry : Entry) : Entry :=
  filter.apply (entry.addLine line)

@[simp] theorem id_changeAt_grow (filter : Filter) (entry : Entry) :
    (Timeline.changeAt id (grow filter line) entry).id = entry.id := by
  unfold Timeline.changeAt
  split <;> rfl

@[simp] theorem kind_changeAt_grow (filter : Filter) (entry : Entry) :
    (Timeline.changeAt id (grow filter line) entry).kind = entry.kind := by
  unfold Timeline.changeAt
  split <;> rfl

@[simp] theorem isSection_changeAt_grow (filter : Filter) (entry : Entry) :
    (Timeline.changeAt id (grow filter line) entry).isSection = entry.isSection := by
  simp [Entry.isSection]

@[simp] theorem isError_changeAt_grow (filter : Filter) (entry : Entry) :
    (Timeline.changeAt id (grow filter line) entry).isError = entry.isError := by
  unfold Timeline.changeAt
  split <;> rfl

/-- The view of errors after one of its sections has grown, if it has the section. -/
def growFocus (session : Session) (id : EntryId) (line : String) : ErrorFocus :=
  match session.focus.addLine? id line with
  | some grown => grown.updateLast id session.filter.apply
  | none => session.focus

@[simp] theorem active_growFocus (session : Session) (id : EntryId) (line : String) :
    (session.growFocus id line).active = session.focus.active := by
  unfold growFocus
  split
  · next found =>
      obtain ⟨index, _, rfl⟩ := Option.map_eq_some_iff.mp found
      simp
  · rfl

/-- What changes in a session when a section grows. -/
theorem growSection_eq (session : Session) (id : EntryId) (line : String) :
    session.growSection id line =
      { session with
        scrollback :=
          if session.scrollback.contains id then
            (session.scrollback.addLine id line).update id session.filter.apply
          else session.scrollback
        focus := session.growFocus id line
        updates := session.updates ++
          (if session.scrollback.contains id && !session.focus.active ||
              (session.focus.addLine? id line).isSome && session.focus.active then
            #[.patched id] else #[]) } := by
  have active := active_growFocus session id line
  unfold growSection growFocus announce at *
  cases inMain : session.scrollback.contains id <;>
    cases found : session.focus.addLine? id line <;>
      cases focused : session.focus.active <;>
        simp_all

@[simp] theorem classifier_growSection (session : Session) (id : EntryId) (line : String) :
    (session.growSection id line).classifier = session.classifier := by
  rw [growSection_eq]

@[simp] theorem surroundings_growSection (session : Session) (id : EntryId) (line : String) :
    (session.growSection id line).surroundings = session.surroundings := by
  rw [growSection_eq]
  simp [surroundings]

@[simp] theorem limits_growSection (session : Session) (id : EntryId) (line : String) :
    (session.growSection id line).limits = session.limits := by
  rw [growSection_eq]
  unfold limits
  congr 1
  simp only
  split <;> rfl

@[simp] theorem evicted_growSection (session : Session) (id : EntryId) (line : String) :
    (session.growSection id line).scrollback.evicted = session.scrollback.evicted := by
  rw [growSection_eq]
  simp only
  split <;> rfl

/-- In the main view the section with the id grows. -/
theorem mainView_growSection (ordered : session.Ordered) (id : EntryId) (line : String) :
    (session.growSection id line).mainView =
      session.mainView.map (Timeline.changeAt id (grow session.filter line)) := by
  rw [growSection_eq]
  unfold mainView
  simp only
  split
  · have added := @Scrollback.entries_update _ id ordered.increasing (·.addLine line)
    have addedIncreasing : (session.scrollback.addLine id line).entries.Increasing := by
      apply ordered.increasing.of_toList_eq_map added
      intro entry
      unfold Timeline.changeAt
      split <;> rfl
    rw [Scrollback.entries_update addedIncreasing]
    unfold Scrollback.addLine
    rw [added, List.map_map, Timeline.changeAt_changeAt id (·.addLine line) _ (fun _ => rfl)]
    rfl
  · next absent =>
      symm
      apply Timeline.map_changeAt_of_forall_ne
      intro entry member same
      exact absent ((Scrollback.contains_iff ordered.increasing).mpr ⟨entry, member, same⟩)

/-- In the view of errors the section with the id grows, if it is the open one. -/
theorem focusView_growSection
    (ordered : session.Ordered)
    (isOpen : session.classifier.openSection = some id)
    (line : String) :
    (session.growSection id line).focusView =
      session.focusView.map (Timeline.changeAt id (grow session.filter line)) := by
  rw [growSection_eq]
  unfold focusView growFocus
  simp only
  split
  · next grown found =>
      obtain ⟨sections, _⟩ := ErrorFocus.sections_addLine? ordered.focusIncreasing found
      have keepsId : ∀ entry : Entry,
          (Timeline.changeAt id (·.addLine line) entry).id = entry.id := by
        intro entry
        unfold Timeline.changeAt
        split <;> rfl
      have grownIncreasing : grown.sections.Increasing :=
        ordered.focusIncreasing.of_toList_eq_map sections keepsId
      -- every section of the view is an error, so none is newer than the open one
      have newest : ∀ entry ∈ grown.sections.toList, entry.id ≤ id := by
        rw [sections, List.forall_mem_map]
        intro entry member
        rw [keepsId]
        have isError := ordered.errors entry member
        exact ordered.focus.newest id isOpen entry member (Bool.and_eq_true_iff.mp isError).1
      have present : ∃ entry ∈ grown.sections.toList, entry.id = id := by
        by_contra absent
        have nowhere : ∀ entry ∈ session.focus.sections.toList, entry.id ≠ id := by
          intro entry member same
          refine absent ⟨_, ?_, (keepsId entry).trans same⟩
          rw [sections]
          exact List.mem_map_of_mem member
        rw [(ErrorFocus.addLine?_eq_none_iff ordered.focusIncreasing).mpr nowhere] at found
        cases found
      rw [ErrorFocus.sections_updateLast grownIncreasing _ newest present, sections, List.map_map,
        Timeline.changeAt_changeAt id (·.addLine line) _ (fun _ => rfl)]
      rfl
  · next found =>
      symm
      exact Timeline.map_changeAt_of_forall_ne _
        ((ErrorFocus.addLine?_eq_none_iff ordered.focusIncreasing).mp found)

/-- The growth is announced if the section is in the view on show. -/
theorem updates_growSection (ordered : session.Ordered) (id : EntryId) (line : String) :
    (session.growSection id line).updates.toList =
      session.updates.toList ++
        (if id ∈ session.activeView.map (·.id) then [.patched id] else []) := by
  have inMain := @Scrollback.contains_iff _ id ordered.increasing
  have inFocus : (session.focus.addLine? id line).isSome ↔
      ∃ entry ∈ session.focusView, entry.id = id := by
    rw [Option.isSome_iff_ne_none, ne_eq, ErrorFocus.addLine?_eq_none_iff ordered.focusIncreasing]
    simp [focusView]
  rw [growSection_eq, activeView_eq]
  simp only [Array.toList_append, List.append_cancel_left_eq]
  cases focused : session.focus.active with
  | false => simp [inMain, mainView, apply_ite Array.toList]
  | true => simp [inFocus, apply_ite Array.toList]

/-! ## An entry comes in -/

/-- A session after an entry that the classifier handed out came in. -/
def enter (session : Session) (entry : Entry) (next : Classifier) : Session :=
  { session with classifier := next }.addEntry entry

/-- What changes in a session when an entry comes in. -/
theorem enter_eq (session : Session) (entry : Entry) (next : Classifier) :
    session.enter entry next =
      { session with
        classifier := next
        scrollback := session.scrollback.enter (session.filter.apply entry)
        focus := if entry.isError then session.focus.add (session.filter.apply entry)
          else session.focus
        updates := session.updates ++
          (if !session.focus.active || entry.isError then #[.appended entry.id] else #[]) } := by
  have sameError : (session.filter.apply entry).isError = entry.isError := rfl
  have sameId : (session.filter.apply entry).id = entry.id := rfl
  unfold enter addEntry announce ErrorFocus.add
  simp only [sameError, sameId]
  cases isError : entry.isError <;> cases focused : session.focus.active <;>
    simp only [Bool.not_false, Bool.not_true, Bool.or_true, Bool.or_false, Bool.false_eq_true,
      if_true, if_false, focused, Array.append_empty, Array.push_eq_append] <;>
    rfl

@[simp] theorem classifier_enter (session : Session) (entry : Entry) (next : Classifier) :
    (session.enter entry next).classifier = next := by
  rw [enter_eq]

@[simp] theorem surroundings_enter (session : Session) (entry : Entry) (next : Classifier) :
    (session.enter entry next).surroundings = session.surroundings := by
  rw [enter_eq]
  unfold surroundings ErrorFocus.add
  simp only
  split <;> rfl

@[simp] theorem limits_enter (session : Session) (entry : Entry) (next : Classifier) :
    (session.enter entry next).limits = session.limits := by
  rw [enter_eq]
  simp [limits]

theorem evicted_enter (session : Session) (entry : Entry) (next : Classifier) :
    (session.enter entry next).scrollback.evicted =
      session.scrollback.evicted +
        (session.mainView.length + 1 - session.scrollback.capacity) := by
  rw [enter_eq]
  exact Scrollback.evicted_enter _ _

/-- The entry comes in behind the others, and the oldest entries go. -/
theorem mainView_enter
    (ordered : session.Ordered)
    (handsOut : session.classifier.HandsOut entry next) :
    (session.enter entry next).mainView =
      (session.mainView.map (Scrollback.answeredBy entry) ++
        [session.filter.apply entry]).rtake session.scrollback.capacity := by
  rw [enter_eq]
  apply Scrollback.entries_enter ordered.increasing
  intro other member
  change other.id < entry.id
  rw [handsOut.id_eq]
  exact ordered.main.below other member

/-- The view of errors takes errors only. -/
theorem focusView_enter (session : Session) (entry : Entry) (next : Classifier) :
    (session.enter entry next).focusView =
      session.focusView ++ (if entry.isError then [session.filter.apply entry] else []) := by
  rw [enter_eq]
  unfold focusView ErrorFocus.add
  simp only
  split <;> simp

/-- The entry is announced if the view on show takes it. -/
theorem updates_enter (session : Session) (entry : Entry) (next : Classifier) :
    (session.enter entry next).updates.toList =
      session.updates.toList ++
        (if !session.focus.active || entry.isError then [.appended entry.id] else []) := by
  rw [enter_eq]
  simp [apply_ite Array.toList]

/-! ## Lines and messages -/

/-- A continuation of the open section grows it. -/
theorem addLine_of_continued (found : session.classifier.continued? line = some id) :
    session.addLine line = session.growSection id line := by
  unfold addLine Classifier.classify
  rw [found]
  rfl

/-- Every other line is an entry of its own. -/
theorem addLine_of_fresh (fresh : session.classifier.continued? line = none) :
    session.addLine line =
      session.enter (session.classifier.classifyFresh line).1
        (session.classifier.classifyFresh line).2 := by
  unfold addLine Classifier.classify
  rw [fresh]
  exact if_neg (session.classifier.classifyFresh_files line).stored

/-- A line grows the open section or is filed as an entry. -/
theorem addLine_cases (session : Session) (line : String) :
    (∃ id, session.classifier.openSection = some id ∧ isContinuation line.toList = true ∧
        session.addLine line = session.growSection id line) ∨
      (∃ entry next, session.classifier.Files line entry next ∧
        (session.classifier.openSection.isSome → isContinuation line.toList = false) ∧
        session.addLine line = session.enter entry next) := by
  cases found : session.classifier.continued? line with
  | some id =>
      obtain ⟨continues, isOpen⟩ := Classifier.continued?_eq_some_iff.mp found
      exact .inl ⟨id, isOpen, continues, addLine_of_continued found⟩
  | none =>
      exact .inr ⟨_, _, session.classifier.classifyFresh_files line,
        Classifier.continued?_eq_none_iff.mp found, addLine_of_fresh found⟩

theorem note_eq (session : Session) (text : String) :
    session.note text =
      session.enter (session.classifier.info text).1 (session.classifier.info text).2 :=
  rfl

/-- A line leaves the surroundings alone. -/
@[simp] theorem surroundings_addLine (session : Session) (line : String) :
    (session.addLine line).surroundings = session.surroundings := by
  rcases session.addLine_cases line with ⟨id, _, _, grown⟩ | ⟨entry, next, _, _, entered⟩
  · rw [grown, surroundings_growSection]
  · rw [entered, surroundings_enter]

@[simp] theorem surroundings_note (session : Session) (text : String) :
    (session.note text).surroundings = session.surroundings :=
  surroundings_enter session _ _

/-- Lines leave the surroundings alone. -/
@[simp] theorem surroundings_foldl_addLine (session : Session) (lines : List String) :
    (lines.foldl addLine session).surroundings = session.surroundings := by
  induction lines generalizing session with
  | nil => rfl
  | cons line rest inductionHypothesis =>
      rw [List.foldl_cons, inductionHypothesis, surroundings_addLine]

end Session
end TailView
