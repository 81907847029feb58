import TailView.Proofs.Session.Announced
import TailView.Proofs.Sizing

/-!
# Entries are known by their ids

Ids are handed out upwards and never a second time, so an id stands for at most one entry of a view,
and halving the view finds that entry.  The room of the main view changes only when the view is
empty, so the view never holds more entries than there is room for.  Both are true in every session
that a history passes through, also between two lines of one message.
-/

namespace TailView

/-- Looking up an id by halving finds what going through all entries finds. -/
theorem Timeline.find?_eq_find?_toList
    {entries : Timeline}
    (increasing : entries.Increasing)
    (id : EntryId) :
    entries.find? id = entries.toList.find? (·.id = id) := by
  have ascending := (Timeline.increasing_iff entries).mp increasing
  have distinct : (entries.toList.map (·.id)).Nodup :=
    List.pairwise_map.mpr (ascending.imp Nat.ne_of_lt)
  apply Option.ext
  intro entry
  rw [Timeline.find?_eq_some_iff increasing]
  constructor
  · rintro ⟨member, rfl⟩
    have present : ∃ other ∈ entries.toList, decide (other.id = entry.id) = true :=
      ⟨entry, member, decide_eq_true rfl⟩
    obtain ⟨first, found⟩ := Option.isSome_iff_exists.mp (List.find?_isSome.mpr present)
    have sameId : first.id = entry.id := by simpa using List.find?_some found
    rw [found, List.inj_on_of_nodup_map distinct (List.mem_of_find?_eq_some found) member sameId]
  · intro found
    exact ⟨List.mem_of_find?_eq_some found, by simpa using List.find?_some found⟩

namespace Session

variable {session later last : Session} {entry : Entry} {next : Classifier} {id : EntryId}

/-! ## What every step keeps -/

/-- The amount of the file on show, or the standard amount if there is none. -/
def shownAmount (session : Session) : Amount :=
  (session.selection.map (·.amount)).getD Amount.standard

/-- The main view has the room that the amount of the file on show asks for, and fits in. -/
structure Sized (session : Session) : Prop where
  /-- The room is that of the amount. -/
  capacity_eq :
    session.scrollback.capacity = session.shownAmount.capacity session.bytesPerLine
  /-- There are no more entries than there is room for. -/
  length_le : session.mainView.length ≤ session.scrollback.capacity

/-- Ids go on from one session to a later one: an id that was handed out before the first one is in
a view of the later one only if it was in that view already. -/
structure Precedes (session later : Session) : Prop where
  /-- No id is handed out again. -/
  nextId_le : session.classifier.nextId ≤ later.classifier.nextId
  /-- Old ids of the main view were there. -/
  main : ∀ entry ∈ later.mainView, entry.id < session.classifier.nextId →
    entry.id ∈ session.mainView.map (·.id)
  /-- Old ids of the view of errors were there. -/
  focus : ∀ entry ∈ later.focusView, entry.id < session.classifier.nextId →
    entry.id ∈ session.focusView.map (·.id)

/-- What every step keeps of the order, the size and the ids of the views. -/
structure LeadsTo (session later : Session) : Prop where
  /-- The views stay in order. -/
  ordered : later.Ordered
  /-- The main view stays within its room. -/
  sized : session.Sized → later.Sized
  /-- The ids go on. -/
  precedes : session.Precedes later

theorem run_append (session : Session) (first second : List Operation) :
    session.run (first ++ second) = (session.run first).run second :=
  List.foldl_append

namespace LeadsTo

theorem refl (ordered : session.Ordered) : LeadsTo session session :=
  ⟨ordered, fun sized => sized, Nat.le_refl _, fun _ member _ => List.mem_map_of_mem member,
    fun _ member _ => List.mem_map_of_mem member⟩

/-- Old ids that were in a view before the second of two steps were there before the first. -/
theorem oldIds_trans
    {first middle last : List Entry}
    {before between : Nat}
    (goesOn : before ≤ between)
    (early : ∀ entry ∈ middle, entry.id < before → entry.id ∈ first.map (·.id))
    (late : ∀ entry ∈ last, entry.id < between → entry.id ∈ middle.map (·.id)) :
    ∀ entry ∈ last, entry.id < before → entry.id ∈ first.map (·.id) := by
  intro entry member old
  obtain ⟨other, otherMember, sameId⟩ :=
    List.mem_map.mp (late entry member (Nat.lt_of_lt_of_le old goesOn))
  rw [← sameId] at old ⊢
  exact early other otherMember old

theorem trans (first : LeadsTo session later) (second : LeadsTo later last) :
    LeadsTo session last where
  ordered := second.ordered
  sized := fun sized => second.sized (first.sized sized)
  precedes :=
    ⟨Nat.le_trans first.precedes.nextId_le second.precedes.nextId_le,
      oldIds_trans first.precedes.nextId_le first.precedes.main second.precedes.main,
      oldIds_trans first.precedes.nextId_le first.precedes.focus second.precedes.focus⟩

/-- A step after which the views hold no other ids than before, for the same amount and in the same
room. -/
theorem of_sublist
    (ordered : later.Ordered)
    (selection_eq : later.selection = session.selection)
    (limits_eq : later.limits = session.limits)
    (nextId_eq : later.classifier.nextId = session.classifier.nextId)
    (main : (later.mainView.map (·.id)).Sublist (session.mainView.map (·.id)))
    (focus : (later.focusView.map (·.id)).Sublist (session.focusView.map (·.id))) :
    LeadsTo session later where
  ordered := ordered
  sized := by
    intro sized
    have fewer : later.mainView.length ≤ session.mainView.length := by
      simpa only [List.length_map] using main.length_le
    refine ⟨?_, ?_⟩
    · rw [shownAmount, selection_eq, capacity_eq_of_limits_eq limits_eq,
        bytesPerLine_eq_of_limits_eq limits_eq]
      exact sized.capacity_eq
    · rw [capacity_eq_of_limits_eq limits_eq]
      exact fewer.trans sized.length_le
  precedes := ⟨Nat.le_of_eq nextId_eq.symm, fun _ member _ => main.mem (List.mem_map_of_mem member),
    fun _ member _ => focus.mem (List.mem_map_of_mem member)⟩

/-- A step that does nothing to the views. -/
theorem of_sameViews
    (ordered : session.Ordered)
    (same : SameViews session later)
    (selection_eq : later.selection = session.selection)
    (bytesPerLine_eq : later.bytesPerLine = session.bytesPerLine) :
    LeadsTo session later := by
  apply of_sublist (stable_ordered.around ordered same) selection_eq
  · rw [limits, limits, same.scrollback, bytesPerLine_eq]
  · rw [same.classifier]
  · rw [mainView, mainView, same.scrollback]
  · rw [focusView, focusView, same.focus]

/-! ## Lines and messages -/

theorem growSection
    (ordered : session.Ordered)
    (isOpen : session.classifier.openSection = some id)
    (line : String) :
    LeadsTo session (session.growSection id line) := by
  have sameIds : ∀ view : List Entry,
      (view.map (Timeline.changeAt id (grow session.filter line))).map (·.id) =
        view.map (·.id) := by
    intro view
    simp [Function.comp_def]
  apply of_sublist (ordered.growSection isOpen line)
  · exact congrArg Surroundings.selection (surroundings_growSection session id line)
  · exact limits_growSection session id line
  · rw [classifier_growSection]
  · rw [mainView_growSection ordered, sameIds]
  · rw [focusView_growSection ordered isOpen, sameIds]

/-- An entry that comes in has the next id, so it is not one of the old ones. -/
theorem enter
    (ordered : session.Ordered)
    (handsOut : session.classifier.HandsOut entry next) :
    LeadsTo session (session.enter entry next) where
  ordered := ordered.enter handsOut
  sized := by
    intro sized
    have sameLimits := limits_enter session entry next
    have sameSelection : (session.enter entry next).selection = session.selection :=
      congrArg Surroundings.selection (surroundings_enter session entry next)
    refine ⟨?_, ?_⟩
    · rw [shownAmount, sameSelection, capacity_eq_of_limits_eq sameLimits,
        bytesPerLine_eq_of_limits_eq sameLimits]
      exact sized.capacity_eq
    · rw [mainView_enter ordered handsOut, capacity_eq_of_limits_eq sameLimits, length_rtake]
      exact Nat.min_le_right _ _
  precedes := by
    have isNew : ¬(session.filter.apply entry).id < session.classifier.nextId := by
      change ¬entry.id < session.classifier.nextId
      rw [handsOut.id_eq]
      exact Nat.lt_irrefl _
    refine ⟨?_, ?_, ?_⟩
    · rw [classifier_enter, handsOut.nextId_eq]
      exact Nat.le_succ _
    · intro shown member old
      rw [mainView_enter ordered handsOut] at member
      rcases List.mem_append.mp (mem_of_mem_rtake member) with earlier | entered
      · obtain ⟨other, otherMember, rfl⟩ := List.mem_map.mp earlier
        rw [Scrollback.id_answeredBy]
        exact List.mem_map_of_mem otherMember
      · rw [List.mem_singleton.mp entered] at old
        exact absurd old isNew
    · intro shown member old
      rw [focusView_enter] at member
      rcases List.mem_append.mp member with earlier | entered
      · exact List.mem_map_of_mem earlier
      · split at entered
        · rw [List.mem_singleton.mp entered] at old
          exact absurd old isNew
        · cases entered

theorem addLine (ordered : session.Ordered) (line : String) :
    LeadsTo session (session.addLine line) := by
  rcases session.addLine_cases line with ⟨id, isOpen, _, grown⟩ | ⟨entry, next, files, _, entered⟩
  · rw [grown]
    exact growSection ordered isOpen line
  · rw [entered]
    exact enter ordered files.toHandsOut

theorem note (ordered : session.Ordered) (text : String) : LeadsTo session (session.note text) :=
  enter ordered (session.classifier.info_handsOut text)

theorem foldl_addLine (ordered : session.Ordered) (lines : List String) :
    LeadsTo session (lines.foldl Session.addLine session) := by
  induction lines generalizing session with
  | nil => exact refl ordered
  | cons line rest inductionHypothesis =>
      have first := addLine ordered line
      exact first.trans (inductionHypothesis first.ordered)

theorem receive (ordered : session.Ordered) (payload : Payload) :
    LeadsTo session (session.receive payload) := by
  cases payload with
  | binary bytes =>
      have buffered : LeadsTo session { session with lines := (session.lines.feed bytes).1 } :=
        of_sameViews ordered ⟨rfl, rfl, rfl, rfl⟩ rfl rfl
      exact buffered.trans (foldl_addLine buffered.ordered (session.lines.feed bytes).2)
  | text notice =>
      rw [Session.receive]
      split
      · exact refl ordered
      · exact note ordered notice
  | unsupported description => exact refl ordered

theorem endStream (ordered : session.Ordered) : LeadsTo session session.endStream := by
  unfold Session.endStream
  split
  · next line flushed =>
      have emptied : LeadsTo session { session with lines := .empty } :=
        of_sameViews ordered ⟨rfl, rfl, rfl, rfl⟩ rfl rfl
      exact emptied.trans (addLine emptied.ordered line)
  · exact refl ordered

/-! ## What the user asks for, and what happens to the connection -/

theorem resetView (ordered : session.Ordered) : LeadsTo session session.resetView :=
  of_sublist (stable_ordered.resetView _ ordered) rfl rfl rfl (List.nil_sublist _)
    (List.nil_sublist _)

/-- Only opening a file changes the room, and then the views are empty. -/
theorem openFile (ordered : session.Ordered) (file : String) (amount : Amount) :
    LeadsTo session (session.openFile file amount) where
  ordered := stable_ordered.openFile ordered file amount
  sized := fun _ =>
    ⟨Nat.max_eq_left (amount.capacity_pos session.bytesPerLine), Nat.zero_le _⟩
  precedes := ⟨Nat.le_refl _, nofun, nofun⟩

theorem reload (ordered : session.Ordered) : LeadsTo session session.reload := by
  unfold Session.reload
  split
  · exact openFile ordered _ _
  · exact refl ordered

theorem stop (ordered : session.Ordered) : LeadsTo session session.stop :=
  of_sublist (stable_ordered.stop ordered) rfl rfl rfl (List.Sublist.refl _) (List.Sublist.refl _)

theorem toggleFollow (ordered : session.Ordered) : LeadsTo session session.toggleFollow := by
  unfold Session.toggleFollow
  split
  · exact stop ordered
  · have wished : LeadsTo session { session with follow := true } :=
      of_sameViews ordered ⟨rfl, rfl, rfl, rfl⟩ rfl rfl
    exact wished.trans (reload wished.ordered)

theorem toggleErrorFocus (ordered : session.Ordered) : LeadsTo session session.toggleErrorFocus :=
  of_sublist (stable_ordered.toggleErrorFocus _ ordered) rfl rfl rfl (List.Sublist.refl _)
    (List.Sublist.refl _)

theorem setFilter (ordered : session.Ordered) (text : String) :
    LeadsTo session (session.setFilter text) := by
  have sameIds : ∀ view : List Entry,
      (view.map (session.filter.setText text).apply).map (·.id) = view.map (·.id) := by
    intro view
    rw [List.map_map]
    rfl
  refine of_sublist (stable_ordered.setFilter _ text ordered) rfl rfl rfl ?_ ?_
  · rw [mainView_setFilter, sameIds]
  · rw [focusView_setFilter, sameIds]

theorem pollFilter (ordered : session.Ordered) (now : Nat) :
    LeadsTo session (session.pollFilter now) := by
  unfold Session.pollFilter
  split
  · exact setFilter ordered _
  · exact refl ordered

theorem connected (ordered : session.Ordered) : LeadsTo session session.connected := by
  unfold Session.connected
  split
  · have emptied := resetView ordered
    exact emptied.trans (of_sameViews emptied.ordered ⟨rfl, rfl, rfl, rfl⟩ rfl rfl)
  · exact of_sameViews ordered ⟨rfl, rfl, rfl, rfl⟩ rfl rfl

theorem disconnected (ordered : session.Ordered) (reason : String) :
    LeadsTo session (session.disconnected reason) := by
  have closed : LeadsTo session { session with connection := session.connection.closed } :=
    of_sameViews ordered ⟨rfl, rfl, rfl, rfl⟩ rfl rfl
  exact closed.trans (note closed.ordered _)

theorem handle (ordered : session.Ordered) (control : Control) (now : Nat) :
    LeadsTo session (session.handle control now) := by
  cases control with
  | openFile file amount => exact openFile ordered file amount
  | toggleErrorFocus => exact toggleErrorFocus ordered
  | toggleFollow => exact toggleFollow ordered
  | stop => exact stop ordered
  | reload => exact reload ordered
  | filter | quit => exact of_sameViews ordered ⟨rfl, rfl, rfl, rfl⟩ rfl rfl

theorem perform (ordered : session.Ordered) (operation : Operation) :
    LeadsTo session (session.perform operation) := by
  cases operation with
  | openFile file amount => exact openFile ordered file amount
  | reload => exact reload ordered
  | stop => exact stop ordered
  | toggleFollow => exact toggleFollow ordered
  | toggleErrorFocus => exact toggleErrorFocus ordered
  | setFilter text => exact setFilter ordered text
  | pollFilter now => exact pollFilter ordered now
  | handle control now => exact handle ordered control now
  | connected => exact connected ordered
  | disconnected reason => exact disconnected ordered reason
  | receive payload => exact receive ordered payload
  | endStream => exact endStream ordered
  | note text => exact note ordered text
  | typeFilter | dial | heartbeat | takeOutbound | takeUpdates =>
      exact of_sameViews ordered ⟨rfl, rfl, rfl, rfl⟩ rfl rfl

/-- Whatever a session passes through on the way of an operation, it leads there. -/
theorem of_mem_stages
    (ordered : session.Ordered)
    {operation : Operation}
    {stage : Session}
    (isStage : stage ∈ session.stages operation) :
    LeadsTo session stage := by
  have inEnd : stage ∈ [session.perform operation] → LeadsTo session stage := by
    intro isLast
    rw [List.mem_singleton.mp isLast]
    exact perform ordered operation
  cases operation with
  | receive payload =>
      cases payload with
      | binary bytes =>
          obtain ⟨lines, _, rfl⟩ := List.mem_map.mp isStage
          have buffered : LeadsTo session { session with lines := (session.lines.feed bytes).1 } :=
            of_sameViews ordered ⟨rfl, rfl, rfl, rfl⟩ rfl rfl
          exact buffered.trans (foldl_addLine buffered.ordered lines)
      | text | unsupported => exact inEnd isStage
  | _ => exact inEnd isStage

theorem run (ordered : session.Ordered) (operations : List Operation) :
    LeadsTo session (session.run operations) := by
  unfold Session.run
  induction operations generalizing session with
  | nil => exact refl ordered
  | cons operation rest inductionHypothesis =>
      have first := perform ordered operation
      exact first.trans (inductionHypothesis first.ordered)

end LeadsTo

theorem sized_ofOptions (options : SessionOptions) : (ofOptions options).Sized :=
  ⟨Nat.max_eq_left (Amount.standard.capacity_pos options.bytesPerLine), Nat.zero_le _⟩

/-! ## Looking entries up -/

/-- The entries that may come in next: that of a line which continues no section, and that of a
message of the viewer. -/
inductive Incoming (session : Session) : Entry → Prop
  /-- A line comes in. -/
  | line (line : String) :
      (session.classifier.classify line).1.kind ≠ .continuation →
      Incoming session (session.classifier.classify line).1
  /-- A message of the viewer comes in. -/
  | note (text : String) : Incoming session (session.classifier.info text).1

/-- An entry that may come in has the next id. -/
theorem Incoming.id_eq (incoming : session.Incoming entry) :
    entry.id = session.classifier.nextId := by
  cases incoming with
  | note text => rfl
  | line line stored =>
      unfold Classifier.classify at stored ⊢
      split
      · next found =>
          rw [found] at stored
          exact absurd rfl stored
      · exact (session.classifier.classifyFresh_files line).id_eq

/-- The ids of a session tell its entries apart and lead to them, and its main view has the room
that it should have. -/
structure Identified (session : Session) : Prop where
  /-- The ids of the main view increase. -/
  mainIncreasing : session.mainView.Pairwise fun first second => first.id < second.id
  /-- The ids of the view of errors increase. -/
  focusIncreasing : session.focusView.Pairwise fun first second => first.id < second.id
  /-- Every id was handed out. -/
  below : ∀ entry ∈ session.mainView ++ session.focusView, entry.id < session.classifier.nextId
  /-- An entry that comes in belongs behind all others. -/
  behind : ∀ entry, session.Incoming entry →
    ∀ other ∈ session.mainView ++ session.focusView, other.id < entry.id
  /-- The room is that of the amount on show. -/
  capacity_eq : session.scrollback.capacity = session.shownAmount.capacity session.bytesPerLine
  /-- There is room for an entry. -/
  capacity_pos : 1 ≤ session.scrollback.capacity
  /-- There are no more entries than there is room for. -/
  length_le : session.mainView.length ≤ session.scrollback.capacity
  /-- An id leads to the only entry on show that has it. -/
  activeEntry?_iff : ∀ id entry, session.activeEntry? id = some entry ↔
    entry ∈ session.activeView ∧ entry.id = id
  /-- The main view is known to hold exactly the ids of its entries. -/
  contains_iff : ∀ id, session.scrollback.contains id = true ↔ id ∈ session.mainView.map (·.id)
  /-- Halving the main view finds what going through it finds. -/
  find?_main : ∀ id, session.scrollback.find? id = session.mainView.find? (·.id = id)
  /-- Halving the view of errors finds what going through it finds. -/
  find?_focus : ∀ id, session.focus.find? id = session.focusView.find? (·.id = id)

theorem Ordered.identified (ordered : session.Ordered) (sized : session.Sized) :
    session.Identified := by
  have below : ∀ entry ∈ session.mainView ++ session.focusView,
      entry.id < session.classifier.nextId := by
    rw [List.forall_mem_append]
    exact ⟨ordered.main.below, ordered.focus.below⟩
  refine ⟨ordered.main.increasing, ordered.focus.increasing, below, ?_, sized.capacity_eq,
    ordered.room, sized.length_le, fun _ _ => ordered.activeEntry?_eq_some_iff, ?_,
    Timeline.find?_eq_find?_toList ordered.increasing,
    Timeline.find?_eq_find?_toList ordered.focusIncreasing⟩
  · intro entry incoming
    rw [incoming.id_eq]
    exact below
  · intro id
    rw [Scrollback.contains_iff ordered.increasing, List.mem_map]
    rfl

/-- An id that was handed out in a history was handed out by one of its operations. -/
theorem exists_handsOut
    (session : Session)
    (operations : List Operation)
    (old : session.classifier.nextId ≤ id)
    (handedOut : id < (session.run operations).classifier.nextId) :
    ∃ before operation after, operations = before ++ operation :: after ∧
      (session.run before).classifier.nextId ≤ id ∧
      id < ((session.run before).perform operation).classifier.nextId := by
  induction operations generalizing session with
  | nil => exact absurd handedOut (Nat.not_lt.mpr old)
  | cons operation rest inductionHypothesis =>
      by_cases atOnce : id < (session.perform operation).classifier.nextId
      · exact ⟨[], operation, rest, rfl, old, atOnce⟩
      · obtain ⟨before, later, after, rfl, notYet, byThen⟩ :=
          inductionHypothesis (session.perform operation) (Nat.le_of_not_lt atOnce) handedOut
        exact ⟨operation :: before, later, after, rfl, notYet, byThen⟩

/-- In every session that a history passes through, ids tell the entries apart and lead to them, and
the main view keeps within the room of the amount on show.  Ids go on over the whole history, and
each one was handed out by an operation of it. -/
theorem identified_run (options : SessionOptions) (history : List Operation) :
    let session := (ofOptions options).run history
    session.Identified ∧
      (∀ operation, ∀ stage ∈ session.stages operation,
        stage.Identified ∧ session.Precedes stage) ∧
      (∀ earlier, earlier <+: history → ((ofOptions options).run earlier).Precedes session) ∧
      ∀ entry ∈ session.mainView ++ session.focusView,
        ∃ before operation after, history = before ++ operation :: after ∧
          ((ofOptions options).run before).classifier.nextId ≤ entry.id ∧
          entry.id < ((ofOptions options).run (before ++ [operation])).classifier.nextId := by
  intro session
  have ordered : session.Ordered := ordered_run options history
  have sized : session.Sized :=
    (LeadsTo.run (ordered_ofOptions options) history).sized (sized_ofOptions options)
  have identified := ordered.identified sized
  refine ⟨identified, ?_, ?_, ?_⟩
  · intro operation stage isStage
    have leads := LeadsTo.of_mem_stages ordered isStage
    exact ⟨leads.ordered.identified (leads.sized sized), leads.precedes⟩
  · rintro earlier ⟨rest, rfl⟩
    have leads := LeadsTo.run (ordered_run options earlier) rest
    rw [← run_append] at leads
    exact leads.precedes
  · intro entry member
    obtain ⟨before, operation, after, split, notYet, handedOut⟩ :=
      exists_handsOut (ofOptions options) history (Nat.zero_le _) (identified.below entry member)
    refine ⟨before, operation, after, split, notYet, ?_⟩
    rw [run_append]
    exact handedOut

end Session
end TailView
