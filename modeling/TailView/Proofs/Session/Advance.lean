import TailView.Proofs.Lines
import TailView.Proofs.Session.Order

/-!
# How a session advances

An operation either has the view on show printed anew, or it takes in lines and messages one by one.
On the way every entry of the view on show keeps its id and its kind, and its text only grows.
-/

namespace TailView
namespace Session

variable {session last other : Session} {entry : Entry} {next : Classifier} {id : EntryId}
  {line : String} {updates : List Update}

/-- What is announced when a section grows. -/
def growthUpdates (session : Session) (id : EntryId) : List Update :=
  if id ∈ session.activeView.map (·.id) then [.patched id] else []

/-- What is announced when an entry comes in. -/
def entryUpdates (session : Session) (entry : Entry) : List Update :=
  if !session.focus.active || entry.isError then [.appended entry.id] else []

/-- A session takes in lines and messages one by one, and announces what becomes of the view on
show. -/
inductive Advances : Session → List Update → Session → Prop
  /-- Nothing comes in. -/
  | refl (session : Session) : Advances session [] session
  /-- The open section grows first. -/
  | grow {session last : Session} {id : EntryId} {updates : List Update} (line : String) :
      session.classifier.openSection = some id →
      Advances (session.growSection id line) updates last →
      Advances session (session.growthUpdates id ++ updates) last
  /-- An entry comes in first. -/
  | enter {session last : Session} {entry : Entry} {next : Classifier} {updates : List Update} :
      session.classifier.HandsOut entry next →
      Advances (session.enter entry next) updates last →
      Advances session (session.entryUpdates entry ++ updates) last

namespace Advances

/-- What comes in later is announced later. -/
theorem trans
    {later : List Update}
    (first : Advances session updates last)
    (second : Advances last later other) :
    Advances session (updates ++ later) other := by
  induction first with
  | refl session => exact second
  | grow line isOpen _ inductionHypothesis =>
      rw [List.append_assoc]
      exact .grow line isOpen (inductionHypothesis second)
  | enter handsOut _ inductionHypothesis =>
      rw [List.append_assoc]
      exact .enter handsOut (inductionHypothesis second)

theorem addLine (session : Session) (line : String) :
    ∃ updates, Advances session updates (session.addLine line) := by
  rcases session.addLine_cases line with ⟨id, isOpen, _, grown⟩ | ⟨entry, next, files, _, entered⟩
  · rw [grown]
    exact ⟨_, .grow line isOpen (.refl _)⟩
  · rw [entered]
    exact ⟨_, .enter files.toHandsOut (.refl _)⟩

theorem note (session : Session) (text : String) :
    ∃ updates, Advances session updates (session.note text) :=
  ⟨_, .enter (session.classifier.info_handsOut text) (.refl _)⟩

theorem foldl_addLine (session : Session) (lines : List String) :
    ∃ updates, Advances session updates (lines.foldl Session.addLine session) := by
  induction lines generalizing session with
  | nil => exact ⟨_, .refl session⟩
  | cons line rest inductionHypothesis =>
      obtain ⟨first, taken⟩ := Advances.addLine session line
      obtain ⟨others, takenRest⟩ := inductionHypothesis (session.addLine line)
      exact ⟨_, taken.trans takenRest⟩

theorem ordered (advances : Advances session updates last) (ordered : session.Ordered) :
    last.Ordered := by
  induction advances with
  | refl session => exact ordered
  | grow line isOpen _ inductionHypothesis =>
      exact inductionHypothesis (ordered.growSection isOpen line)
  | enter handsOut _ inductionHypothesis => exact inductionHypothesis (ordered.enter handsOut)

/-- What is announced is queued behind the changes that were not taken yet. -/
theorem updates_eq (advances : Advances session updates last) (ordered : session.Ordered) :
    last.updates.toList = session.updates.toList ++ updates := by
  induction advances with
  | refl session => rw [List.append_nil]
  | grow line isOpen _ inductionHypothesis =>
      rw [inductionHypothesis (ordered.growSection isOpen line), updates_growSection ordered,
        List.append_assoc]
      rfl
  | enter handsOut _ inductionHypothesis =>
      rw [inductionHypothesis (ordered.enter handsOut), updates_enter, List.append_assoc]
      rfl

end Advances

/-! ## What becomes of the entries on show -/

/-- The view on show after a section has grown. -/
theorem activeView_growSection
    (ordered : session.Ordered)
    (isOpen : session.classifier.openSection = some id)
    (line : String) :
    (session.growSection id line).activeView =
      session.activeView.map (Timeline.changeAt id (grow session.filter line)) := by
  have sameFocused : (session.growSection id line).focus.active = session.focus.active :=
    congrArg Surroundings.focused (surroundings_growSection session id line)
  rw [activeView_eq, activeView_eq, sameFocused, mainView_growSection ordered,
    focusView_growSection ordered isOpen]
  split <;> rfl

/-- An entry on show was on show before, or it has just come in and was announced. -/
theorem mem_activeView_enter
    {shown : Entry}
    (ordered : session.Ordered)
    (handsOut : session.classifier.HandsOut entry next)
    (member : shown ∈ (session.enter entry next).activeView) :
    (∃ earlier ∈ session.activeView, ∃ counterpart, shown = { earlier with counterpart }) ∨
      (shown = session.filter.apply entry ∧
        session.entryUpdates entry = [.appended entry.id]) := by
  have sameFocused : (session.enter entry next).focus.active = session.focus.active :=
    congrArg Surroundings.focused (surroundings_enter session entry next)
  rw [activeView_eq, sameFocused, mainView_enter ordered handsOut, focusView_enter] at member
  rw [activeView_eq]
  unfold entryUpdates
  split at member
  · next focused =>
      rw [if_pos focused]
      rcases List.mem_append.mp member with old | new
      · exact .inl ⟨shown, old, shown.counterpart, rfl⟩
      · split at new
        · next isError =>
            refine .inr ⟨List.mem_singleton.mp new, ?_⟩
            simp [isError]
        · cases new
  · next unfocused =>
      rw [if_neg unfocused]
      rcases List.mem_append.mp (mem_of_mem_rtake member) with old | new
      · obtain ⟨earlier, earlierMember, rfl⟩ := List.mem_map.mp old
        exact .inl ⟨earlier, earlierMember, Scrollback.answeredBy_eq entry earlier⟩
      · refine .inr ⟨List.mem_singleton.mp new, ?_⟩
        simp [unfocused]

/-- A session later on: entries that are still on show have kept their ids and kinds, and their
texts have grown by whole lines. -/
structure Evolves (session last : Session) : Prop where
  /-- The filter is the same. -/
  filter_eq : last.filter = session.filter
  /-- Ids were handed out upwards. -/
  nextId_le : session.classifier.nextId ≤ last.classifier.nextId
  /-- Entries whose ids were handed out before were there before. -/
  earlier : ∀ entry ∈ last.activeView, entry.id < session.classifier.nextId →
    ∃ earlier ∈ session.activeView, earlier.id = entry.id ∧ earlier.kind = entry.kind ∧
      earlier.lines <+: entry.lines

namespace Evolves

theorem refl (session : Session) : Evolves session session :=
  ⟨rfl, Nat.le_refl _, fun entry member _ => ⟨entry, member, rfl, rfl, List.prefix_rfl⟩⟩

theorem trans (first : Evolves session last) (second : Evolves last other) :
    Evolves session other where
  filter_eq := second.filter_eq.trans first.filter_eq
  nextId_le := Nat.le_trans first.nextId_le second.nextId_le
  earlier := by
    intro entry member below
    obtain ⟨middle, middleMember, sameId, sameKind, grown⟩ :=
      second.earlier entry member (Nat.lt_of_lt_of_le below first.nextId_le)
    obtain ⟨earlier, earlierMember, sameId', sameKind', grown'⟩ :=
      first.earlier middle middleMember (sameId ▸ below)
    exact ⟨earlier, earlierMember, sameId'.trans sameId, sameKind'.trans sameKind,
      grown'.trans grown⟩

theorem growSection
    (ordered : session.Ordered)
    (isOpen : session.classifier.openSection = some id)
    (line : String) :
    Evolves session (session.growSection id line) where
  filter_eq := filter_eq_of_surroundings_eq (surroundings_growSection session id line)
  nextId_le := by rw [classifier_growSection]
  earlier := by
    intro entry member _
    rw [activeView_growSection ordered isOpen] at member
    obtain ⟨earlier, earlierMember, rfl⟩ := List.mem_map.mp member
    refine ⟨earlier, earlierMember, (id_changeAt_grow _ _).symm, (kind_changeAt_grow _ _).symm, ?_⟩
    unfold Timeline.changeAt
    split
    · exact ⟨Text.lines line, (Text.lines_append_newline earlier.text line).symm⟩
    · exact List.prefix_rfl

theorem enter
    (ordered : session.Ordered)
    (handsOut : session.classifier.HandsOut entry next) :
    Evolves session (session.enter entry next) where
  filter_eq := filter_eq_of_surroundings_eq (surroundings_enter session entry next)
  nextId_le := by
    rw [classifier_enter, handsOut.nextId_eq]
    exact Nat.le_succ _
  earlier := by
    intro shown member below
    rcases mem_activeView_enter ordered handsOut member with
      ⟨earlier, earlierMember, counterpart, rfl⟩ | ⟨rfl, _⟩
    · exact ⟨earlier, earlierMember, rfl, rfl, List.prefix_rfl⟩
    · -- the entry that has just come in has a new id
      change entry.id < session.classifier.nextId at below
      rw [handsOut.id_eq] at below
      exact absurd below (Nat.lt_irrefl _)

/-- Taking the queued changes alters nothing that is on show. -/
theorem takeUpdates (evolves : Evolves session last) : Evolves session last.takeUpdates :=
  ⟨evolves.filter_eq, evolves.nextId_le, evolves.earlier⟩

end Evolves

theorem Advances.evolves (advances : Advances session updates last) (ordered : session.Ordered) :
    Evolves session last := by
  induction advances with
  | refl session => exact .refl session
  | grow line isOpen _ inductionHypothesis =>
      exact (Evolves.growSection ordered isOpen line).trans
        (inductionHypothesis (ordered.growSection isOpen line))
  | enter handsOut _ inductionHypothesis =>
      exact (Evolves.enter ordered handsOut).trans (inductionHypothesis (ordered.enter handsOut))

/-! ## What an operation announces -/

/-- Another session shows the same and has nothing to announce. -/
structure Pauses (session other : Session) : Prop where
  /-- The views are in order. -/
  ordered : other.Ordered
  /-- The same is on show. -/
  activeView_eq : other.activeView = session.activeView
  /-- The filter is the same. -/
  filter_eq : other.filter = session.filter
  /-- The same ids were handed out. -/
  nextId_eq : other.classifier.nextId = session.classifier.nextId
  /-- No section was opened. -/
  openSection : other.classifier.openSection = none ∨
    other.classifier.openSection = session.classifier.openSection
  /-- Nothing is announced. -/
  updates_eq : other.updates = #[]

theorem pauses_of_sameViews
    (ordered : session.Ordered)
    (same : SameViews session other)
    (silent : other.updates = #[]) :
    Pauses session other where
  ordered := stable_ordered.around ordered same
  activeView_eq := by rw [activeView, activeView, same.scrollback, same.focus]
  filter_eq := same.filter
  nextId_eq := by rw [same.classifier]
  openSection := .inr (by rw [same.classifier])
  updates_eq := silent

/-- A session goes on with what is on show. -/
def GoesOn (session last : Session) : Prop :=
  ∃ started updates, Pauses session started ∧ Advances started updates last

theorem Pauses.goesOn (pauses : Pauses session other) : GoesOn session other :=
  ⟨other, [], pauses, .refl other⟩

theorem goesOn_stop (ordered : session.Ordered) (taken : session.updates = #[]) :
    GoesOn session session.stop :=
  Pauses.goesOn ⟨stable_ordered.stop ordered, rfl, rfl, rfl, .inl rfl, taken⟩

theorem goesOn_note
    (ordered : session.Ordered)
    (same : SameViews session other)
    (silent : other.updates = #[])
    (text : String) :
    GoesOn session (other.note text) := by
  obtain ⟨updates, advances⟩ := Advances.note other text
  exact ⟨other, updates, pauses_of_sameViews ordered same silent, advances⟩

theorem goesOn_receive
    (ordered : session.Ordered)
    (taken : session.updates = #[])
    (payload : Payload) :
    GoesOn session (session.receive payload) := by
  cases payload with
  | binary bytes =>
      have buffered : Pauses session { session with lines := (session.lines.feed bytes).1 } :=
        pauses_of_sameViews ordered ⟨rfl, rfl, rfl, rfl⟩ taken
      obtain ⟨updates, advances⟩ := Advances.foldl_addLine
        { session with lines := (session.lines.feed bytes).1 } (session.lines.feed bytes).2
      exact ⟨_, updates, buffered, advances⟩
  | text notice =>
      rw [Session.receive]
      split
      · exact (pauses_of_sameViews ordered ⟨rfl, rfl, rfl, rfl⟩ taken).goesOn
      · exact goesOn_note ordered ⟨rfl, rfl, rfl, rfl⟩ taken notice
  | unsupported description =>
      exact (pauses_of_sameViews ordered ⟨rfl, rfl, rfl, rfl⟩ taken).goesOn

theorem goesOn_endStream (ordered : session.Ordered) (taken : session.updates = #[]) :
    GoesOn session session.endStream := by
  unfold Session.endStream
  split
  · next line flushed =>
      obtain ⟨updates, advances⟩ := Advances.addLine { session with lines := .empty } line
      have emptied : Pauses session { session with lines := .empty } :=
        pauses_of_sameViews ordered ⟨rfl, rfl, rfl, rfl⟩ taken
      exact ⟨_, updates, emptied, advances⟩
  · exact (pauses_of_sameViews ordered ⟨rfl, rfl, rfl, rfl⟩ taken).goesOn

/-- A redraw that is announced when all changes were taken is the only change. -/
theorem push_redraw (taken : session.updates = #[]) :
    session.updates.push .redraw = #[.redraw] := by
  rw [taken]
  rfl

theorem updates_openFile (taken : session.updates = #[]) (file : String) (amount : Amount) :
    (session.openFile file amount).updates = #[.redraw] :=
  push_redraw taken

theorem reload_cases (ordered : session.Ordered) (taken : session.updates = #[]) :
    GoesOn session session.reload ∨ session.reload.updates = #[.redraw] := by
  unfold Session.reload
  split
  · exact .inr (updates_openFile taken _ _)
  · exact .inl (pauses_of_sameViews ordered ⟨rfl, rfl, rfl, rfl⟩ taken).goesOn

theorem GoesOn.of_sameViews
    {started : Session}
    (goesOn : GoesOn started last)
    (same : SameViews session started) :
    GoesOn session last := by
  obtain ⟨paused, updates, pauses, advances⟩ := goesOn
  have sameView : started.activeView = session.activeView := by
    rw [activeView, activeView, same.scrollback, same.focus]
  refine ⟨paused, updates, ⟨pauses.ordered, pauses.activeView_eq.trans sameView,
    pauses.filter_eq.trans same.filter, ?_, ?_, pauses.updates_eq⟩, advances⟩
  · rw [pauses.nextId_eq, same.classifier]
  · rw [← same.classifier]
    exact pauses.openSection

theorem toggleFollow_cases (ordered : session.Ordered) (taken : session.updates = #[]) :
    GoesOn session session.toggleFollow ∨ session.toggleFollow.updates = #[.redraw] := by
  unfold Session.toggleFollow
  split
  · exact .inl (goesOn_stop ordered taken)
  · have same : SameViews session { session with follow := true } := ⟨rfl, rfl, rfl, rfl⟩
    rcases reload_cases (stable_ordered.around ordered same) taken with goesOn | redrawn
    · exact .inl (goesOn.of_sameViews same)
    · exact .inr redrawn

theorem updates_toggleErrorFocus (taken : session.updates = #[]) :
    session.toggleErrorFocus.updates = #[.redraw] :=
  push_redraw taken

theorem updates_setFilter (taken : session.updates = #[]) (text : String) :
    (session.setFilter text).updates = #[.redraw] :=
  push_redraw taken

theorem connected_cases (ordered : session.Ordered) (taken : session.updates = #[]) :
    GoesOn session session.connected ∨ session.connected.updates = #[.redraw] := by
  unfold Session.connected
  split
  · exact .inr (push_redraw taken)
  · have greeted : Pauses session ({ session with connection := session.connection.opened }.send
        session.connection.greeting) :=
      pauses_of_sameViews ordered ⟨rfl, rfl, rfl, rfl⟩ taken
    exact .inl greeted.goesOn

/-- After an operation the view is printed anew, or the session goes on with what is on show. -/
theorem perform_cases
    (ordered : session.Ordered)
    (taken : session.updates = #[])
    (operation : Operation) :
    GoesOn session (session.perform operation) ∨
      (session.perform operation).updates = #[.redraw] := by
  have idle : ∀ {other : Session}, SameViews session other → other.updates = #[] →
      GoesOn session other ∨ other.updates = #[.redraw] :=
    fun same silent => .inl (pauses_of_sameViews ordered same silent).goesOn
  cases operation with
  | openFile file amount => exact .inr (updates_openFile taken file amount)
  | reload => exact reload_cases ordered taken
  | stop => exact .inl (goesOn_stop ordered taken)
  | toggleFollow => exact toggleFollow_cases ordered taken
  | toggleErrorFocus => exact .inr (updates_toggleErrorFocus taken)
  | setFilter text => exact .inr (updates_setFilter taken text)
  | typeFilter text now => exact idle ⟨rfl, rfl, rfl, rfl⟩ taken
  | pollFilter now =>
      rw [perform, Session.pollFilter]
      split
      · exact .inr (updates_setFilter taken _)
      · exact idle ⟨rfl, rfl, rfl, rfl⟩ taken
  | handle control now =>
      cases control with
      | openFile file amount => exact .inr (updates_openFile taken file amount)
      | filter pattern => exact idle ⟨rfl, rfl, rfl, rfl⟩ taken
      | toggleErrorFocus => exact .inr (updates_toggleErrorFocus taken)
      | toggleFollow => exact toggleFollow_cases ordered taken
      | stop => exact .inl (goesOn_stop ordered taken)
      | reload => exact reload_cases ordered taken
      | quit => exact idle ⟨rfl, rfl, rfl, rfl⟩ taken
  | connected => exact connected_cases ordered taken
  | dial => exact idle ⟨rfl, rfl, rfl, rfl⟩ taken
  | disconnected reason =>
      have closed : SameViews session { session with connection := session.connection.closed } :=
        ⟨rfl, rfl, rfl, rfl⟩
      exact .inl (goesOn_note ordered closed taken _)
  | heartbeat => exact idle ⟨rfl, rfl, rfl, rfl⟩ taken
  | receive payload => exact .inl (goesOn_receive ordered taken payload)
  | endStream => exact .inl (goesOn_endStream ordered taken)
  | note text => exact .inl (goesOn_note ordered ⟨rfl, rfl, rfl, rfl⟩ taken text)
  | takeOutbound => exact idle ⟨rfl, rfl, rfl, rfl⟩ taken
  | takeUpdates => exact idle ⟨rfl, rfl, rfl, rfl⟩ rfl

end Session
end TailView
