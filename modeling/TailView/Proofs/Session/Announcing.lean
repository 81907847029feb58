import Mathlib.Data.List.Infix
import TailView.Proofs.Session.Advance

/-!
# What is announced while lines come in

While lines and messages come in one by one, the entries that come in are announced in their order,
and so are the sections that grow.  What is announced is compared with a session from before: the
entries on show have come in since, or they were there and have grown by lines that were taken in
since.
-/

namespace TailView

namespace Update

/-- The entry that a change adds. -/
def appendedId? : Update → Option EntryId
  | .appended id => some id
  | .patched _ | .redraw => none

/-- The section that a change lets grow. -/
def patchedId? : Update → Option EntryId
  | .patched id => some id
  | .appended _ | .redraw => none

end Update

/-- What may become of an entry that is on show: it grows by lines, and is looked at again by the
filter if there are any. -/
structure Entry.GrowsBy (added : List String) (old entry : Entry) : Prop where
  /-- The id stays. -/
  id_eq : old.id = entry.id
  /-- The kind stays. -/
  kind_eq : old.kind = entry.kind
  /-- The severity stays. -/
  severity_eq : old.severity = entry.severity
  /-- The lines come behind the others. -/
  lines_eq : entry.lines = old.lines ++ added
  /-- If there are none, the same is shown. -/
  same : added = [] → old.text = entry.text ∧ old.visible = entry.visible

/-- A section that grows by one more line has grown by all lines so far and that one. -/
theorem Entry.GrowsBy.grow
    {added : List String}
    {old entry : Entry}
    {line : String}
    (grows : old.GrowsBy added entry)
    (filter : Filter)
    (absent : '\n' ∉ line.toList) :
    old.GrowsBy (added ++ [line]) (Session.grow filter line entry) where
  id_eq := grows.id_eq
  kind_eq := grows.kind_eq
  severity_eq := grows.severity_eq
  lines_eq := by
    have grew : (Session.grow filter line entry).lines = entry.lines ++ [line] :=
      entry.lines_addLine absent
    rw [grew, grows.lines_eq, List.append_assoc]
  same := fun empty => absurd empty (List.append_ne_nil_of_right_ne_nil _ (List.cons_ne_nil _ _))

namespace Session

variable {session other last : Session} {entry : Entry} {next : Classifier} {id : EntryId}
  {line : String} {lines : List String} {passed : List Session}

/-- The ids of the view on show, the oldest first. -/
def shownIds (session : Session) : List EntryId := session.activeView.map (·.id)

/-- The entries that are announced to be new, in the order of the announcements. -/
def appendedIds (session : Session) : List EntryId :=
  session.updates.toList.filterMap Update.appendedId?

/-- The sections that are announced to have grown, in the order of the announcements. -/
def patchedIds (session : Session) : List EntryId :=
  session.updates.toList.filterMap Update.patchedId?

/-! ## The view on show after one step -/

/-- Whether the view on show takes an entry that comes in. -/
def takes (session : Session) (entry : Entry) : Bool := !session.focus.active || entry.isError

theorem focused_growSection (session : Session) (id : EntryId) (line : String) :
    (session.growSection id line).focus.active = session.focus.active :=
  congrArg Surroundings.focused (surroundings_growSection session id line)

theorem focused_enter (session : Session) (entry : Entry) (next : Classifier) :
    (session.enter entry next).focus.active = session.focus.active :=
  congrArg Surroundings.focused (surroundings_enter session entry next)

theorem shownIds_growSection
    (ordered : session.Ordered)
    (isOpen : session.classifier.openSection = some id)
    (line : String) :
    (session.growSection id line).shownIds = session.shownIds := by
  rw [shownIds, activeView_growSection ordered isOpen, List.map_map]
  apply List.map_congr_left
  intro entry _
  exact id_changeAt_grow session.filter entry

/-- Of the entries on show the open section has grown, and the others are as they were. -/
theorem mem_activeView_growSection
    {shown : Entry}
    (ordered : session.Ordered)
    (isOpen : session.classifier.openSection = some id)
    (member : shown ∈ (session.growSection id line).activeView) :
    (∃ earlier ∈ session.activeView, earlier.id = id ∧ shown = grow session.filter line earlier) ∨
      (shown ∈ session.activeView ∧ shown.id ≠ id) := by
  rw [activeView_growSection ordered isOpen] at member
  obtain ⟨earlier, wasShown, rfl⟩ := List.mem_map.mp member
  by_cases same : earlier.id = id
  · subst same
    exact .inl ⟨earlier, wasShown, rfl, Timeline.changeAt_same _ earlier⟩
  · rw [Timeline.changeAt_other _ same]
    exact .inr ⟨wasShown, same⟩

theorem appendedIds_growSection (ordered : session.Ordered) (id : EntryId) (line : String) :
    (session.growSection id line).appendedIds = session.appendedIds := by
  rw [appendedIds, updates_growSection ordered, List.filterMap_append]
  split <;> exact List.append_nil _

/-- The section that grows is announced if it is on show. -/
theorem mem_patchedIds_growSection
    {other : EntryId}
    (ordered : session.Ordered) :
    other ∈ (session.growSection id line).patchedIds ↔
      other ∈ session.patchedIds ∨
        ∃ entry ∈ session.activeView, entry.id = id ∧ entry.id = other := by
  rw [patchedIds, updates_growSection ordered, List.filterMap_append, List.mem_append]
  apply or_congr_right
  split
  · next shown =>
      obtain ⟨entry, entryShown, rfl⟩ := List.mem_map.mp shown
      constructor
      · intro member
        exact ⟨entry, entryShown, rfl, (List.mem_singleton.mp member).symm⟩
      · rintro ⟨_, _, same, rfl⟩
        exact List.mem_singleton.mpr same
  · next hidden =>
      refine ⟨nofun, ?_⟩
      rintro ⟨entry, entryShown, rfl, _⟩
      exact absurd (List.mem_map_of_mem entryShown) hidden

theorem appendedIds_enter (session : Session) (entry : Entry) (next : Classifier) :
    (session.enter entry next).appendedIds =
      session.appendedIds ++ (if session.takes entry then [entry.id] else []) := by
  rw [appendedIds, updates_enter, List.filterMap_append, takes]
  split <;> rfl

theorem patchedIds_enter (session : Session) (entry : Entry) (next : Classifier) :
    (session.enter entry next).patchedIds = session.patchedIds := by
  rw [patchedIds, updates_enter, List.filterMap_append]
  split <;> exact List.append_nil _

/-- An entry that the view on show takes comes in behind the others, and the oldest ones go. -/
theorem shownIds_enter_suffix
    (ordered : session.Ordered)
    (handsOut : session.classifier.HandsOut entry next) :
    (session.enter entry next).shownIds <:+
      session.shownIds ++ (if session.takes entry then [entry.id] else []) := by
  unfold shownIds takes
  rw [activeView_eq, activeView_eq, focused_enter, mainView_enter ordered handsOut,
    focusView_enter]
  cases focused : session.focus.active with
  | true =>
      rw [if_pos rfl, if_pos rfl, List.map_append]
      cases entry.isError <;> exact List.suffix_rfl
  | false =>
      have sameIds : (session.mainView.map (Scrollback.answeredBy entry)).map (·.id) =
          session.mainView.map (·.id) := by
        rw [List.map_map]
        exact List.map_congr_left fun other _ => Scrollback.id_answeredBy entry other
      have kept := (rtake_suffix session.scrollback.capacity
        (session.mainView.map (Scrollback.answeredBy entry) ++
          [session.filter.apply entry])).map (·.id)
      rw [List.map_append, sameIds] at kept
      exact kept

/-- There is room for an entry that the view on show takes. -/
theorem mem_shownIds_enter
    (ordered : session.Ordered)
    (handsOut : session.classifier.HandsOut entry next)
    (takes : session.takes entry = true) :
    entry.id ∈ (session.enter entry next).shownIds := by
  refine List.mem_map.mpr ⟨session.filter.apply entry, ?_, rfl⟩
  rw [activeView_eq, focused_enter, mainView_enter ordered handsOut, focusView_enter]
  unfold Session.takes at takes
  cases focused : session.focus.active with
  | true =>
      have isError : entry.isError = true := by simpa [focused] using takes
      simp [isError]
  | false =>
      obtain ⟨room, isRoom⟩ := Nat.exists_eq_succ_of_ne_zero (Nat.ne_of_gt ordered.room)
      rw [isRoom, List.rtake_concat_succ]
      simp

/-! ## The entries that come in -/

/-- The entries that have come in since a session, on the way through some stages, and what is on
show of them in the last one. -/
structure Arrives (session : Session) (passed : List Session) (last : Session) : Prop where
  /-- The announced ids are new. -/
  recent : ∀ id ∈ last.appendedIds, session.classifier.nextId ≤ id
  /-- The announced ids were handed out. -/
  below : ∀ id ∈ last.appendedIds, id < last.classifier.nextId
  /-- The announced ids increase. -/
  increasing : last.appendedIds.Pairwise (· < ·)
  /-- Every announced id was on show at some stage. -/
  shownAt : ∀ id ∈ last.appendedIds, ∃ stage ∈ passed, id ∈ stage.shownIds
  /-- Whatever was on show at some stage was so before or is announced. -/
  announced : ∀ stage ∈ passed, ∀ id ∈ stage.shownIds,
    id ∈ session.shownIds ∨ id ∈ last.appendedIds
  /-- On show is the end of what was on show and of what is announced. -/
  suffix : last.shownIds <:+ session.shownIds ++ last.appendedIds

namespace Arrives

/-- As long as the same is on show nothing has come in. -/
theorem of_unchanged
    (noneAppended : last.appendedIds = [])
    (sameView : last.activeView = session.activeView)
    (same : ∀ stage ∈ passed, stage.activeView = session.activeView) :
    Arrives session passed last where
  recent := by simp [noneAppended]
  below := by simp [noneAppended]
  increasing := by simp [noneAppended]
  shownAt := by simp [noneAppended]
  announced := by
    intro stage isStage id shown
    rw [shownIds, same stage isStage] at shown
    exact .inl shown
  suffix := by
    rw [noneAppended, List.append_nil, shownIds, sameView]
    exact List.suffix_rfl

/-- At one more stage some entries have come in behind the others. -/
theorem extend
    {added : List EntryId}
    (arrives : Arrives session passed last)
    (later : session.classifier.nextId ≤ last.classifier.nextId)
    (handedOut : last.classifier.nextId ≤ other.classifier.nextId)
    (appended : other.appendedIds = last.appendedIds ++ added)
    (fresh : ∀ id ∈ added, last.classifier.nextId ≤ id ∧ id < other.classifier.nextId)
    (sorted : added.Pairwise (· < ·))
    (shown : ∀ id ∈ added, id ∈ other.shownIds)
    (suffix : other.shownIds <:+ last.shownIds ++ added) :
    Arrives session (passed ++ [other]) other := by
  have suffixSince : other.shownIds <:+ session.shownIds ++ other.appendedIds := by
    obtain ⟨gone, before⟩ := arrives.suffix
    have stays : last.shownIds ++ added <:+ session.shownIds ++ (last.appendedIds ++ added) :=
      ⟨gone, by rw [← List.append_assoc, before, List.append_assoc]⟩
    rw [appended]
    exact suffix.trans stays
  refine ⟨?_, ?_, ?_, ?_, ?_, suffixSince⟩
  · rw [appended, List.forall_mem_append]
    exact ⟨arrives.recent, fun id isNew => Nat.le_trans later (fresh id isNew).1⟩
  · rw [appended, List.forall_mem_append]
    exact ⟨fun id isOld => Nat.lt_of_lt_of_le (arrives.below id isOld) handedOut,
      fun id isNew => (fresh id isNew).2⟩
  · rw [appended, List.pairwise_append]
    refine ⟨arrives.increasing, sorted, ?_⟩
    intro old isOld new isNew
    exact Nat.lt_of_lt_of_le (arrives.below old isOld) (fresh new isNew).1
  · rw [appended, List.forall_mem_append]
    constructor
    · intro id isOld
      obtain ⟨stage, isStage, wasShown⟩ := arrives.shownAt id isOld
      exact ⟨stage, List.mem_append_left _ isStage, wasShown⟩
    · intro id isNew
      exact ⟨other, List.mem_append_right _ (List.mem_singleton_self _), shown id isNew⟩
  · rw [List.forall_mem_append]
    constructor
    · intro stage isStage id wasShown
      rw [appended]
      exact (arrives.announced stage isStage id wasShown).imp_right (List.mem_append_left _)
    · intro stage isOther id isShown
      rw [List.mem_singleton.mp isOther] at isShown
      exact List.mem_append.mp (suffixSince.mem isShown)

/-- When a section grows nothing comes in. -/
theorem growSection
    (arrives : Arrives session passed last)
    (ordered : last.Ordered)
    (later : session.classifier.nextId ≤ last.classifier.nextId)
    (isOpen : last.classifier.openSection = some id)
    (line : String) :
    Arrives session (passed ++ [last.growSection id line]) (last.growSection id line) := by
  have sameNext : last.classifier.nextId ≤ (last.growSection id line).classifier.nextId := by
    rw [classifier_growSection]
  have sameAppended : (last.growSection id line).appendedIds = last.appendedIds ++ [] := by
    rw [appendedIds_growSection ordered, List.append_nil]
  have sameShown : (last.growSection id line).shownIds <:+ last.shownIds ++ [] := by
    rw [shownIds_growSection ordered isOpen, List.append_nil]
  exact arrives.extend later sameNext sameAppended (by simp) .nil (by simp) sameShown

theorem enter
    (arrives : Arrives session passed last)
    (ordered : last.Ordered)
    (later : session.classifier.nextId ≤ last.classifier.nextId)
    (handsOut : last.classifier.HandsOut entry next) :
    Arrives session (passed ++ [last.enter entry next]) (last.enter entry next) := by
  have nextId : (last.enter entry next).classifier.nextId = last.classifier.nextId + 1 := by
    rw [classifier_enter, handsOut.nextId_eq]
  apply arrives.extend later (nextId ▸ Nat.le_succ _) (appendedIds_enter last entry next) ?_ ?_ ?_
    (shownIds_enter_suffix ordered handsOut)
  · intro id isNew
    obtain ⟨_, isEntry⟩ := List.mem_ite_nil_right.mp isNew
    rw [List.mem_singleton.mp isEntry, nextId, handsOut.id_eq]
    exact ⟨Nat.le_refl _, Nat.lt_succ_self _⟩
  · split
    · exact List.pairwise_singleton _ _
    · exact .nil
  · intro id isNew
    obtain ⟨takes, isEntry⟩ := List.mem_ite_nil_right.mp isNew
    rw [List.mem_singleton.mp isEntry]
    exact mem_shownIds_enter ordered handsOut takes

end Arrives

/-! ## The sections that grow -/

/-- An entry is a section that has grown since a session, and the last of its lines is one of those
that were taken in since. -/
structure Grown (session : Session) (lines : List String) (entry : Entry) : Prop where
  /-- The entry is a section. -/
  isSection : entry.isSection = true
  /-- Its last line was taken in. -/
  lastLine : ∃ line ∈ lines, entry.lines.getLast? = some line
  /-- If it was on show before, it has all lines of then and some of those that were taken in. -/
  longer : ∀ old ∈ session.activeView, old.id = entry.id →
    ∃ added, added ≠ [] ∧ added ⊆ lines ∧ entry.lines = old.lines ++ added

theorem Grown.mono
    {more : List String}
    (grown : Grown session lines entry)
    (included : lines ⊆ more) :
    Grown session more entry where
  isSection := grown.isSection
  lastLine := by
    obtain ⟨line, member, isLast⟩ := grown.lastLine
    exact ⟨line, included member, isLast⟩
  longer := by
    intro old member sameId
    obtain ⟨added, nonempty, taken, grew⟩ := grown.longer old member sameId
    exact ⟨added, nonempty, List.Subset.trans taken included, grew⟩

/-- What has become of the entries on show since a session, while some lines were taken in. -/
structure Keeps (session : Session) (lines : List String) (passed : List Session)
    (last : Session) : Prop where
  /-- The sections that are announced to have grown were on show. -/
  below : ∀ id ∈ last.patchedIds, id < last.classifier.nextId
  /-- They have grown at some stage. -/
  grownAt : ∀ id ∈ last.patchedIds,
    ∃ stage ∈ passed, ∃ entry ∈ stage.activeView, entry.id = id ∧ Grown session lines entry
  /-- Those that are still on show have grown. -/
  grown : ∀ entry ∈ last.activeView, entry.id ∈ last.patchedIds → Grown session lines entry
  /-- Every entry on show is announced to be new or was there before, and what has grown is
  announced. -/
  kept : ∀ entry ∈ last.activeView, entry.id ∈ last.appendedIds ∨
    ∃ old ∈ session.activeView, ∃ added, old.GrowsBy added entry ∧ added ⊆ lines ∧
      (added ≠ [] → entry.id ∈ last.patchedIds)

namespace Keeps

/-- As long as the same is on show nothing has grown. -/
theorem of_unchanged
    (nonePatched : last.patchedIds = [])
    (sameView : last.activeView = session.activeView) :
    Keeps session [] passed last where
  below := by simp [nonePatched]
  grownAt := by simp [nonePatched]
  grown := by simp [nonePatched]
  kept := by
    rw [sameView]
    intro entry shown
    have unchanged : entry.GrowsBy [] entry :=
      ⟨rfl, rfl, rfl, (List.append_nil _).symm, fun _ => ⟨rfl, rfl⟩⟩
    exact .inr ⟨entry, shown, [], unchanged, List.Subset.refl _, fun grew => absurd rfl grew⟩

theorem mono
    {more : List String}
    (keeps : Keeps session lines passed last)
    (included : lines ⊆ more) :
    Keeps session more passed last where
  below := keeps.below
  grownAt := by
    intro id member
    obtain ⟨stage, isStage, entry, shown, sameId, grown⟩ := keeps.grownAt id member
    exact ⟨stage, isStage, entry, shown, sameId, grown.mono included⟩
  grown := fun entry shown member => (keeps.grown entry shown member).mono included
  kept := by
    intro entry shown
    refine (keeps.kept entry shown).imp_right ?_
    rintro ⟨old, wasShown, added, grows, taken, patched⟩
    exact ⟨old, wasShown, added, grows, List.Subset.trans taken included, patched⟩

/-- The open section has grown when it takes one more line. -/
theorem grown_of_open
    (keeps : Keeps session lines passed last)
    (arrives : Arrives session passed last)
    (startOrdered : session.Ordered)
    (ordered : last.Ordered)
    (isOpen : last.classifier.openSection = some entry.id)
    (absent : '\n' ∉ line.toList)
    (shown : entry ∈ last.activeView) :
    Grown session (lines ++ [line]) (grow last.filter line entry) where
  isSection := ordered.active.openIsSection entry shown isOpen
  lastLine := by
    have grew : (grow last.filter line entry).lines = entry.lines ++ [line] :=
      entry.lines_addLine absent
    rw [grew, List.getLast?_concat]
    exact ⟨line, List.mem_append_right _ (List.mem_singleton_self _), rfl⟩
  longer := by
    intro old wasShown sameId
    rcases keeps.kept entry shown with appended | ⟨earlier, earlierShown, added, grows, taken, _⟩
    · -- an entry that was on show before has no new id
      have recent := arrives.recent entry.id appended
      have wasBelow := startOrdered.active.below old wasShown
      rw [sameId] at wasBelow
      exact absurd wasBelow (Nat.not_lt.mpr recent)
    · have sameEntry := startOrdered.active.eq_of_id_eq earlierShown wasShown
        (grows.id_eq.trans sameId.symm)
      subst sameEntry
      refine ⟨added ++ [line], ?_, ?_, (grows.grow last.filter absent).lines_eq⟩
      · exact List.append_ne_nil_of_right_ne_nil _ (List.cons_ne_nil _ _)
      · exact List.append_subset.mpr ⟨List.subset_append_of_subset_left _ taken,
          List.subset_append_right _ _⟩

/-- A section has grown by one more line. -/
theorem growSection
    (keeps : Keeps session lines passed last)
    (arrives : Arrives session passed last)
    (startOrdered : session.Ordered)
    (ordered : last.Ordered)
    (isOpen : last.classifier.openSection = some id)
    (absent : '\n' ∉ line.toList) :
    Keeps session (lines ++ [line]) (passed ++ [last.growSection id line])
      (last.growSection id line) := by
  have more : Keeps session (lines ++ [line]) passed last :=
    keeps.mono (List.subset_append_left _ _)
  have grownOpen : ∀ entry ∈ last.activeView, entry.id = id →
      Grown session (lines ++ [line]) (grow last.filter line entry) := by
    rintro entry shown rfl
    exact keeps.grown_of_open arrives startOrdered ordered isOpen absent shown
  -- what is announced now is the open section, if it is on show; all else is as before
  refine ⟨?_, ?_, ?_, ?_⟩
  · intro other isPatched
    rw [classifier_growSection]
    rcases (mem_patchedIds_growSection ordered).mp isPatched with before | ⟨entry, shown, _, rfl⟩
    · exact keeps.below other before
    · exact ordered.active.below entry shown
  · intro other isPatched
    rcases (mem_patchedIds_growSection ordered).mp isPatched with
      before | ⟨entry, shown, rfl, sameId⟩
    · obtain ⟨stage, isStage, found⟩ := more.grownAt other before
      exact ⟨stage, List.mem_append_left _ isStage, found⟩
    · refine ⟨_, List.mem_append_right _ (List.mem_singleton_self _),
        grow last.filter line entry, ?_, sameId, grownOpen entry shown rfl⟩
      rw [activeView_growSection ordered isOpen]
      exact List.mem_map.mpr ⟨entry, shown, Timeline.changeAt_same _ entry⟩
  · intro shown member isPatched
    rcases mem_activeView_growSection ordered isOpen member with
      ⟨earlier, wasShown, same, rfl⟩ | ⟨wasShown, different⟩
    · exact grownOpen earlier wasShown same
    · rcases (mem_patchedIds_growSection ordered).mp isPatched with before | ⟨_, _, isId, sameId⟩
      · exact more.grown shown wasShown before
      · exact absurd (sameId.symm.trans isId) different
  · intro shown member
    rw [appendedIds_growSection ordered]
    rcases mem_activeView_growSection ordered isOpen member with
      ⟨earlier, wasShown, same, rfl⟩ | ⟨wasShown, _⟩
    · refine (more.kept earlier wasShown).imp_right ?_
      rintro ⟨old, oldShown, added, grows, taken, _⟩
      have announced : earlier.id ∈ (last.growSection id line).patchedIds :=
        (mem_patchedIds_growSection ordered).mpr (.inr ⟨earlier, wasShown, same, rfl⟩)
      exact ⟨old, oldShown, added ++ [line], grows.grow last.filter absent,
        List.append_subset.mpr ⟨taken, List.subset_append_right _ _⟩, fun _ => announced⟩
    · refine (more.kept shown wasShown).imp_right ?_
      rintro ⟨old, oldShown, added, grows, taken, isPatched⟩
      exact ⟨old, oldShown, added, grows, taken,
        fun nonempty => (mem_patchedIds_growSection ordered).mpr (.inl (isPatched nonempty))⟩

/-- An entry has come in; at most the counterparts of the others have changed. -/
theorem enter
    (keeps : Keeps session lines passed last)
    (ordered : last.Ordered)
    (handsOut : last.classifier.HandsOut entry next) :
    Keeps session lines (passed ++ [last.enter entry next]) (last.enter entry next) := by
  have patched := patchedIds_enter last entry next
  refine ⟨?_, ?_, ?_, ?_⟩
  · rw [patched, classifier_enter, handsOut.nextId_eq]
    exact fun id member => Nat.lt_succ_of_lt (keeps.below id member)
  · rw [patched]
    intro id member
    obtain ⟨stage, isStage, found⟩ := keeps.grownAt id member
    exact ⟨stage, List.mem_append_left _ isStage, found⟩
  · rw [patched]
    intro shown member isPatched
    rcases mem_activeView_enter ordered handsOut member with
      ⟨earlier, wasShown, counterpart, rfl⟩ | ⟨rfl, _⟩
    · have grown := keeps.grown earlier wasShown isPatched
      exact ⟨grown.isSection, grown.lastLine, grown.longer⟩
    · -- the entry that has just come in has a new id
      have below : entry.id < last.classifier.nextId := keeps.below entry.id isPatched
      rw [handsOut.id_eq] at below
      exact absurd below (Nat.lt_irrefl _)
  · rw [patched, appendedIds_enter]
    intro shown member
    rcases mem_activeView_enter ordered handsOut member with
      ⟨earlier, wasShown, counterpart, rfl⟩ | ⟨rfl, announced⟩
    · rcases keeps.kept earlier wasShown with appended | ⟨old, oldShown, added, grows, rest⟩
      · exact .inl (List.mem_append_left _ appended)
      · exact .inr ⟨old, oldShown, added,
          ⟨grows.id_eq, grows.kind_eq, grows.severity_eq, grows.lines_eq, grows.same⟩, rest⟩
    · have takes : last.takes entry = true := by
        unfold entryUpdates at announced
        split at announced
        · next takes => exact takes
        · cases announced
      rw [if_pos takes]
      exact .inl (List.mem_append_right _ (List.mem_singleton_self _))

end Keeps

/-! ## Lines and messages that are taken in -/

/-- Since a session some lines were taken in, all that changed on show was announced, and the view
on show was not turned over. -/
structure Announcing (session : Session) (lines : List String) (passed : List Session)
    (last : Session) : Prop where
  /-- The views were in order. -/
  startOrdered : session.Ordered
  /-- The views are in order. -/
  ordered : last.Ordered
  /-- The same view is on show. -/
  focused_eq : last.focus.active = session.focus.active
  /-- Ids were handed out upwards. -/
  later : session.classifier.nextId ≤ last.classifier.nextId
  /-- The entries that came in are announced. -/
  arrives : Arrives session passed last
  /-- The sections that grew are announced. -/
  keeps : Keeps session lines passed last
  /-- The view on show is not to be shown anew. -/
  noRedraw : .redraw ∉ last.updates.toList

namespace Announcing

/-- Nothing needs to be announced as long as the same is on show. -/
theorem of_pauses
    (ordered : session.Ordered)
    (pauses : Pauses session last)
    (focused_eq : last.focus.active = session.focus.active)
    (same : ∀ stage ∈ passed, stage.activeView = session.activeView) :
    Announcing session [] passed last := by
  have noneAppended : last.appendedIds = [] := by
    rw [appendedIds, pauses.updates_eq]
    rfl
  have nonePatched : last.patchedIds = [] := by
    rw [patchedIds, pauses.updates_eq]
    rfl
  refine ⟨ordered, pauses.ordered, focused_eq, Nat.le_of_eq pauses.nextId_eq.symm, ?_, ?_, ?_⟩
  · exact .of_unchanged noneAppended pauses.activeView_eq same
  · exact .of_unchanged nonePatched pauses.activeView_eq
  · rw [pauses.updates_eq]
    exact nofun

theorem growSection
    (announcing : Announcing session lines passed last)
    (isOpen : last.classifier.openSection = some id)
    (absent : '\n' ∉ line.toList) :
    Announcing session (lines ++ [line]) (passed ++ [last.growSection id line])
      (last.growSection id line) where
  startOrdered := announcing.startOrdered
  ordered := announcing.ordered.growSection isOpen line
  focused_eq := (focused_growSection last id line).trans announcing.focused_eq
  later := by
    rw [classifier_growSection]
    exact announcing.later
  arrives := announcing.arrives.growSection announcing.ordered announcing.later isOpen line
  keeps := announcing.keeps.growSection announcing.arrives announcing.startOrdered
    announcing.ordered isOpen absent
  noRedraw := by
    rw [updates_growSection announcing.ordered, List.mem_append, not_or]
    refine ⟨announcing.noRedraw, ?_⟩
    split <;> simp

theorem enter
    (announcing : Announcing session lines passed last)
    (handsOut : last.classifier.HandsOut entry next) :
    Announcing session lines (passed ++ [last.enter entry next]) (last.enter entry next) where
  startOrdered := announcing.startOrdered
  ordered := announcing.ordered.enter handsOut
  focused_eq := (focused_enter last entry next).trans announcing.focused_eq
  later := by
    rw [classifier_enter, handsOut.nextId_eq]
    exact Nat.le_succ_of_le announcing.later
  arrives := announcing.arrives.enter announcing.ordered announcing.later handsOut
  keeps := announcing.keeps.enter announcing.ordered handsOut
  noRedraw := by
    rw [updates_enter, List.mem_append, not_or]
    refine ⟨announcing.noRedraw, ?_⟩
    split <;> simp

theorem addLine
    (announcing : Announcing session lines passed last)
    (absent : '\n' ∉ line.toList) :
    Announcing session (lines ++ [line]) (passed ++ [last.addLine line]) (last.addLine line) := by
  rcases last.addLine_cases line with ⟨id, isOpen, _, grown⟩ | ⟨entry, next, files, _, entered⟩
  · rw [grown]
    exact announcing.growSection isOpen absent
  · rw [entered]
    have included : lines ⊆ lines ++ [line] := List.subset_append_left _ _
    have more : Announcing session (lines ++ [line]) passed last :=
      { announcing with keeps := announcing.keeps.mono included }
    exact more.enter files.toHandsOut

theorem note (announcing : Announcing session lines passed last) (text : String) :
    Announcing session lines (passed ++ [last.note text]) (last.note text) :=
  announcing.enter (last.classifier.info_handsOut text)

/-- Every line that is taken in is one more stage. -/
theorem foldl_addLine
    {start : Session}
    (announcing : Announcing session [] [start] start)
    (absent : ∀ line ∈ lines, '\n' ∉ line.toList) :
    Announcing session lines (lines.inits.map fun taken => taken.foldl Session.addLine start)
      (lines.foldl Session.addLine start) := by
  induction lines using List.reverseRecOn with
  | nil => exact announcing
  | append_singleton before line inductionHypothesis =>
      rw [List.forall_mem_append] at absent
      have absentLast := absent.2 line (List.mem_singleton_self line)
      have added := (inductionHypothesis absent.1).addLine absentLast
      simpa [List.inits_append] using added

end Announcing

end Session
end TailView
