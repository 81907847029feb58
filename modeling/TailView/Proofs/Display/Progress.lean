import TailView.Proofs.Display.Chunks
import TailView.Proofs.Display.PlainText
import TailView.Proofs.Session.Advance

/-!
# What is on the terminal while changes are printed

Changes are printed against the session in which they all have happened, so an entry may be printed
with lines of which the terminal hears only later.  What is on the terminal is therefore compared
with two sessions: the one up to which the changes were printed, and the last one.  The terminal
knows how much of one section it has shown; that is enough, since only the newest section of a view
can grow.
-/

namespace TailView
namespace Display

open Session (Advances Evolves Ordered)

variable {session last : Session} {terminal : Terminal} {printed : List Chunk} {entry shown : Entry}
  {next : Classifier} {id : EntryId} {line : String} {updates : List Update}

/-! ## Printing changes -/

namespace Terminal

theorem printUpdates_append
    (terminal : Terminal)
    (session : Session)
    (first second : List Update) :
    (terminal.printUpdates session (first ++ second)).1 =
      ((terminal.printUpdates session first).1.printUpdates session second).1 := by
  induction first generalizing terminal with
  | nil => rfl
  | cons update rest inductionHypothesis =>
      exact inductionHypothesis (terminal.printUpdate session update).1

theorem updatesChunks_append
    (terminal : Terminal)
    (session : Session)
    (first second : List Update) :
    terminal.updatesChunks session (first ++ second) =
      terminal.updatesChunks session first ++
        (terminal.printUpdates session first).1.updatesChunks session second := by
  induction first generalizing terminal with
  | nil => rfl
  | cons update rest inductionHypothesis =>
      rw [List.cons_append, updatesChunks, updatesChunks, inductionHypothesis, List.append_assoc]
      rfl

theorem printUpdates_singleton (terminal : Terminal) (session : Session) (update : Update) :
    (terminal.printUpdates session [update]).1 = (terminal.printUpdate session update).1 :=
  rfl

theorem updatesChunks_singleton (terminal : Terminal) (session : Session) (update : Update) :
    terminal.updatesChunks session [update] = terminal.updateChunks session update :=
  List.append_nil _

@[simp] theorem look_printUpdate (terminal : Terminal) (session : Session) (update : Update) :
    (terminal.printUpdate session update).1.look = terminal.look := by
  cases update with
  | redraw => exact look_printEntries _ session _
  | appended id =>
      rw [printUpdate]
      split
      · exact look_printEntry terminal session _
      · rfl
  | patched id =>
      rw [printUpdate]
      split
      · exact look_printGrowth terminal session _
      · rfl

@[simp] theorem look_printUpdates
    (terminal : Terminal)
    (session : Session)
    (updates : List Update) :
    (terminal.printUpdates session updates).1.look = terminal.look := by
  induction updates generalizing terminal with
  | nil => rfl
  | cons update rest inductionHypothesis =>
      exact (inductionHypothesis _).trans (look_printUpdate terminal session update)

/-! ## Printing a whole view -/

/-- Entries that are not printed get no chunks. -/
theorem chunksFor_append_entriesChunks_of_not_mem
    {entries : List Entry}
    (absent : ∀ entry ∈ entries, entry.id ≠ id) :
    chunksFor (printed ++ terminal.entriesChunks session entries) id = chunksFor printed id := by
  induction entries generalizing terminal printed with
  | nil => rw [entriesChunks, List.append_nil]
  | cons entry rest inductionHypothesis =>
      rw [List.forall_mem_cons] at absent
      rw [entriesChunks, ← List.append_assoc, inductionHypothesis absent.2,
        chunksFor_append_of_ne _ absent.1]

/-- Every entry of a view is printed once. -/
theorem chunksFor_append_entriesChunks
    {entries : List Entry}
    (increasing : entries.Pairwise fun first second => first.id < second.id)
    (member : entry ∈ entries) :
    chunksFor (printed ++ terminal.entriesChunks session entries) entry.id =
      chunksFor printed entry.id ++
        (if entry.visible then [terminal.look.print session entry] else []) := by
  induction entries generalizing terminal printed with
  | nil => cases member
  | cons first rest inductionHypothesis =>
      obtain ⟨below, increasingRest⟩ := List.pairwise_cons.mp increasing
      rw [entriesChunks, ← List.append_assoc]
      rcases List.mem_cons.mp member with rfl | inRest
      · have absent : ∀ other ∈ rest, other.id ≠ entry.id :=
          fun other otherMember => Ne.symm (Nat.ne_of_lt (below other otherMember))
        rw [chunksFor_append_entriesChunks_of_not_mem absent, chunksFor_append_forEntry,
          chunks_printEntry]
      · have different : first.id ≠ entry.id := Nat.ne_of_lt (below entry inRest)
        rw [inductionHypothesis increasingRest inRest, chunksFor_append_of_ne _ different,
          look_printEntry]

/-- Entries that are no sections are not remembered. -/
theorem lastSection_printEntries_of_no_section
    {entries : List Entry}
    (noSection : ∀ entry ∈ entries, entry.isSection = false) :
    (terminal.printEntries session entries).1.lastSection = terminal.lastSection := by
  induction entries generalizing terminal with
  | nil => rfl
  | cons entry rest inductionHypothesis =>
      rw [List.forall_mem_cons] at noSection
      rw [printEntries]
      simp only
      rw [inductionHypothesis noSection.2, lastSection_printEntry, noSection.1]
      rfl

/-- The newest section of a view is remembered. -/
theorem lastSection_printEntries
    {entries : List Entry}
    (increasing : entries.Pairwise fun first second => first.id < second.id)
    (member : entry ∈ entries)
    (isSection : entry.isSection = true)
    (newest : ∀ other ∈ entries, other.isSection = true → other.id ≤ entry.id) :
    (terminal.printEntries session entries).1.lastSection =
      some (entry.id, shownLines entry) := by
  induction entries generalizing terminal with
  | nil => cases member
  | cons first rest inductionHypothesis =>
      obtain ⟨below, increasingRest⟩ := List.pairwise_cons.mp increasing
      rw [List.forall_mem_cons] at newest
      rw [printEntries]
      simp only
      rcases List.mem_cons.mp member with rfl | inRest
      · have noSection : ∀ other ∈ rest, other.isSection = false := by
          intro other otherMember
          by_contra otherSection
          have le := newest.2 other otherMember (by simpa using otherSection)
          exact Nat.lt_irrefl _ (Nat.lt_of_lt_of_le (below other otherMember) le)
        rw [lastSection_printEntries_of_no_section noSection, lastSection_printEntry,
          if_pos isSection]
      · exact inductionHypothesis increasingRest inRest newest.2

end Terminal

/-! ## Progress -/

/-- An entry of the last session as far as it is on the terminal when the changes up to an earlier
session were printed. -/
def ShownUpTo
    (session : Session)
    (terminal : Terminal)
    (printed : List Chunk)
    (entry : Entry) : Prop :=
  ∃ count ≤ entry.lines.length,
    Shows (chunksFor printed entry.id) ((plainLines entry).take count) ∧
      ((∃ earlier ∈ session.activeView, earlier.id = entry.id ∧ earlier.text = entry.text) →
        entry.visible = true → count = entry.lines.length) ∧
      (session.classifier.openSection = some entry.id →
        terminal.lastSection = some (entry.id, count))

/-- The terminal when the changes up to an earlier session were printed against the last one. -/
structure Progress
    (session last : Session)
    (terminal : Terminal)
    (printed : List Chunk) : Prop where
  /-- Plain text is printed. -/
  plain : terminal.look = plainLook
  /-- Nothing was printed for an entry whose id was not handed out. -/
  below : ∀ id, session.classifier.nextId ≤ id → chunksFor printed id = []
  /-- The entries are on the terminal as far as they had come in. -/
  shown : ∀ entry ∈ last.activeView, entry.id < session.classifier.nextId →
    ShownUpTo session terminal printed entry

namespace Progress

/-- The growth of a section concerns no other entry. -/
theorem chunksFor_growthUpdates_of_ne {other : EntryId} (different : id ≠ other) :
    chunksFor (printed ++ terminal.updatesChunks last (session.growthUpdates id)) other =
      chunksFor printed other := by
  unfold Session.growthUpdates
  split
  · rw [Terminal.updatesChunks_singleton]
    exact chunksFor_append_of_ne printed different _
  · rw [Terminal.updatesChunks, List.append_nil]

/-- A section grows by a line: what it has gained is printed if it is to be seen. -/
theorem growSection
    (progress : Progress session last terminal printed)
    (ordered : session.Ordered)
    (lastOrdered : last.Ordered)
    (isOpen : session.classifier.openSection = some id)
    (evolves : Evolves (session.growSection id line) last) :
    Progress (session.growSection id line) last
      (terminal.printUpdates last (session.growthUpdates id)).1
      (printed ++ terminal.updatesChunks last (session.growthUpdates id)) where
  plain := by
    rw [Terminal.look_printUpdates]
    exact progress.plain
  below := by
    intro other le
    rw [Session.classifier_growSection] at le
    have different : id ≠ other :=
      Nat.ne_of_lt (Nat.lt_of_lt_of_le (ordered.active.openBelow id isOpen) le)
    rw [chunksFor_growthUpdates_of_ne different]
    exact progress.below other le
  shown := by
    intro entry member below
    have grownView := Session.activeView_growSection ordered isOpen line
    rw [Session.classifier_growSection] at below
    by_cases same : entry.id = id
    · subst same
      obtain ⟨earlier, earlierMember, sameId, _, _⟩ := evolves.earlier entry member
        (by rw [Session.classifier_growSection]; exact below)
      -- the section is still on show, so its growth was announced
      have announced : session.growthUpdates entry.id = [.patched entry.id] := by
        apply if_pos
        rw [grownView] at earlierMember
        obtain ⟨before, beforeMember, rfl⟩ := List.mem_map.mp earlierMember
        rw [Session.id_changeAt_grow] at sameId
        exact List.mem_map.mpr ⟨before, beforeMember, sameId⟩
      have found : last.activeEntry? entry.id = some entry :=
        lastOrdered.activeEntry?_eq_some_iff.mpr ⟨member, rfl⟩
      obtain ⟨count, bound, shows, _, remembers⟩ := progress.shown entry member below
      obtain ⟨total, totalBound, showsTotal, whole, remembered⟩ :=
        Terminal.shows_printGrowth progress.plain last (remembers isOpen) shows bound
      have printedGrowth : terminal.printUpdate last (.patched entry.id) =
          terminal.printGrowth last entry := by
        rw [Terminal.printUpdate, found]
      rw [announced, Terminal.updatesChunks_singleton, Terminal.printUpdates_singleton,
        Terminal.updateChunks, printedGrowth]
      refine ⟨total, totalBound, ?_, fun _ => whole, fun _ => remembered⟩
      rw [chunksFor_append_forEntry]
      exact showsTotal
    · obtain ⟨count, bound, shows, whole, _⟩ := progress.shown entry member below
      refine ⟨count, bound, ?_, ?_, ?_⟩
      · rw [chunksFor_growthUpdates_of_ne (Ne.symm same)]
        exact shows
      · rintro ⟨earlier, earlierMember, sameId, sameText⟩
        rw [grownView] at earlierMember
        obtain ⟨before, beforeMember, rfl⟩ := List.mem_map.mp earlierMember
        rw [Session.id_changeAt_grow] at sameId
        rw [Timeline.changeAt_other _ (sameId.trans_ne same)] at sameText
        exact whole ⟨before, beforeMember, sameId, sameText⟩
      · intro opened
        rw [Session.classifier_growSection, isOpen] at opened
        exact absurd (Option.some.inj opened).symm same

/-- The entry that came in last is on show later on only if it was announced, and it stays what it
is. -/
theorem announced_of_id_eq
    (ordered : session.Ordered)
    (handsOut : session.classifier.HandsOut entry next)
    (evolves : Evolves (session.enter entry next) last)
    (member : shown ∈ last.activeView)
    (same : shown.id = entry.id) :
    session.entryUpdates entry = [.appended entry.id] ∧ shown.isSection = entry.isSection := by
  have below : shown.id < (session.enter entry next).classifier.nextId := by
    rw [Session.classifier_enter, handsOut.nextId_eq, same, handsOut.id_eq]
    exact Nat.lt_succ_self _
  obtain ⟨earlier, earlierMember, sameId, sameKind, _⟩ := evolves.earlier shown member below
  rcases Session.mem_activeView_enter ordered handsOut earlierMember with
    ⟨before, beforeMember, counterpart, rfl⟩ | ⟨rfl, announced⟩
  · have old := ordered.active.below before beforeMember
    change before.id = shown.id at sameId
    rw [sameId, same, handsOut.id_eq] at old
    exact absurd old (Nat.lt_irrefl _)
  · refine ⟨announced, ?_⟩
    rw [Entry.isSection, ← sameKind]
    rfl

/-- An entry that comes in concerns no other entry. -/
theorem chunksFor_entryUpdates_of_ne (different : entry.id ≠ id) :
    chunksFor (printed ++ terminal.updatesChunks last (session.entryUpdates entry)) id =
      chunksFor printed id := by
  unfold Session.entryUpdates
  split
  · rw [Terminal.updatesChunks_singleton]
    exact chunksFor_append_of_ne printed different _
  · rw [Terminal.updatesChunks, List.append_nil]

/-- An entry that is no section does not change what the terminal remembers. -/
theorem lastSection_entryUpdates
    (ordered : session.Ordered)
    (lastOrdered : last.Ordered)
    (handsOut : session.classifier.HandsOut entry next)
    (evolves : Evolves (session.enter entry next) last)
    (noSection : entry.isSection = false) :
    (terminal.printUpdates last (session.entryUpdates entry)).1.lastSection =
      terminal.lastSection := by
  unfold Session.entryUpdates
  split
  · rw [Terminal.printUpdates_singleton, Terminal.printUpdate]
    cases found : last.activeEntry? entry.id with
    | none => rfl
    | some shown =>
        obtain ⟨member, same⟩ := lastOrdered.activeEntry?_eq_some_iff.mp found
        obtain ⟨_, sameSection⟩ := announced_of_id_eq ordered handsOut evolves member same
        simp only
        rw [Terminal.lastSection_printEntry, sameSection, noSection]
        rfl
  · rfl

/-- An entry comes in: it is printed if it is to be seen. -/
theorem enter
    (progress : Progress session last terminal printed)
    (ordered : session.Ordered)
    (lastOrdered : last.Ordered)
    (handsOut : session.classifier.HandsOut entry next)
    (evolves : Evolves (session.enter entry next) last) :
    Progress (session.enter entry next) last
      (terminal.printUpdates last (session.entryUpdates entry)).1
      (printed ++ terminal.updatesChunks last (session.entryUpdates entry)) where
  plain := by
    rw [Terminal.look_printUpdates]
    exact progress.plain
  below := by
    intro other le
    rw [Session.classifier_enter, handsOut.nextId_eq] at le
    have different : entry.id ≠ other := by
      rw [handsOut.id_eq]
      exact Nat.ne_of_lt le
    rw [chunksFor_entryUpdates_of_ne different]
    exact progress.below other (Nat.le_of_succ_le le)
  shown := by
    intro shown member below
    rw [Session.classifier_enter, handsOut.nextId_eq] at below
    by_cases same : shown.id = entry.id
    · -- the entry that has just come in
      obtain ⟨announced, sameSection⟩ :=
        announced_of_id_eq ordered handsOut evolves member same
      have found : last.activeEntry? entry.id = some shown :=
        lastOrdered.activeEntry?_eq_some_iff.mpr ⟨member, same⟩
      have printedEntry : terminal.printUpdate last (.appended entry.id) =
          terminal.printEntry last shown := by
        rw [Terminal.printUpdate, found]
      have nothing : chunksFor printed shown.id = [] := by
        rw [same, handsOut.id_eq]
        exact progress.below _ (Nat.le_refl _)
      rw [announced, Terminal.updatesChunks_singleton, Terminal.printUpdates_singleton,
        Terminal.updateChunks, printedEntry, ← same]
      refine ⟨Terminal.shownLines shown, Terminal.shownLines_le shown, ?_, ?_, ?_⟩
      · rw [chunksFor_append_forEntry, nothing, List.nil_append]
        exact Terminal.shows_printEntry progress.plain last shown
      · intro _ visible
        exact if_pos visible
      · intro isOpen
        rw [Session.classifier_enter, same] at isOpen
        rw [Terminal.lastSection_printEntry]
        apply if_pos
        rw [sameSection]
        by_contra single
        -- the id of the entry is new, so no older section can have it
        rcases handsOut.keeps (by simpa using single) with closed | kept
        · rw [closed] at isOpen
          cases isOpen
        · rw [kept] at isOpen
          have old := ordered.active.openBelow _ isOpen
          rw [handsOut.id_eq] at old
          exact Nat.lt_irrefl _ old
    · have belowBefore : shown.id < session.classifier.nextId := by
        rw [handsOut.id_eq] at same
        exact Nat.lt_of_le_of_ne (Nat.le_of_lt_succ below) same
      obtain ⟨count, bound, shows, whole, remembers⟩ := progress.shown shown member belowBefore
      refine ⟨count, bound, ?_, ?_, ?_⟩
      · rw [chunksFor_entryUpdates_of_ne (Ne.symm same)]
        exact shows
      · rintro ⟨earlier, earlierMember, sameId, sameText⟩
        rcases Session.mem_activeView_enter ordered handsOut earlierMember with
          ⟨before, beforeMember, counterpart, rfl⟩ | ⟨rfl, _⟩
        · exact whole ⟨before, beforeMember, sameId, sameText⟩
        · exact absurd sameId.symm same
      · intro isOpen
        rw [Session.classifier_enter] at isOpen
        cases isSection : entry.isSection with
        | true =>
            rw [handsOut.opens isSection] at isOpen
            exact absurd (Option.some.inj isOpen).symm same
        | false =>
            rw [lastSection_entryUpdates ordered lastOrdered handsOut evolves isSection]
            rcases handsOut.keeps isSection with closed | kept
            · rw [closed] at isOpen
              cases isOpen
            · exact remembers (kept ▸ isOpen)

/-- Changes that are printed one after the other bring the terminal up to the last session. -/
theorem advance
    (progress : Progress session last.takeUpdates terminal printed)
    (advances : Advances session updates last)
    (ordered : session.Ordered) :
    Progress last last.takeUpdates (terminal.printUpdates last.takeUpdates updates).1
      (printed ++ terminal.updatesChunks last.takeUpdates updates) := by
  induction advances generalizing terminal printed with
  | refl session =>
      rw [Terminal.updatesChunks, List.append_nil]
      exact progress
  | @grow session last id updates line isOpen rest inductionHypothesis =>
      have orderedAfter := ordered.growSection isOpen line
      have lastOrdered := (rest.ordered orderedAfter).takeUpdates
      have evolves := (rest.evolves orderedAfter).takeUpdates
      have grown := progress.growSection ordered lastOrdered isOpen evolves
      rw [Terminal.printUpdates_append, Terminal.updatesChunks_append, ← List.append_assoc]
      exact inductionHypothesis grown orderedAfter
  | @enter session last entry next updates handsOut rest inductionHypothesis =>
      have orderedAfter := ordered.enter handsOut
      have lastOrdered := (rest.ordered orderedAfter).takeUpdates
      have evolves := (rest.evolves orderedAfter).takeUpdates
      have entered := progress.enter ordered lastOrdered handsOut evolves
      rw [Terminal.printUpdates_append, Terminal.updatesChunks_append, ← List.append_assoc]
      exact inductionHypothesis entered orderedAfter

/-- A divider is printed before a view that is printed anew. -/
theorem updateChunks_redraw (plain : terminal.look = plainLook) :
    terminal.updateChunks last .redraw =
      [⟨.divider, Terminal.divider terminal.look.colors⟩] ++
        { terminal with lastSection := none }.entriesChunks last last.activeView := by
  have isText : terminal.look.format = .text := by
    rw [plain]
    rfl
  rw [Terminal.updateChunks, if_pos isText]

/-- A view that is printed anew is on the terminal as a whole. -/
theorem redraw
    (plain : terminal.look = plainLook)
    (ordered : last.Ordered) :
    Progress last last (terminal.printUpdate last .redraw).1
      (printed ++ terminal.updateChunks last .redraw) where
  plain := by
    rw [Terminal.look_printUpdate]
    exact plain
  below := by
    intro id le
    have absent : ∀ entry ∈ last.activeView, entry.id ≠ id :=
      fun entry member => Nat.ne_of_lt (Nat.lt_of_lt_of_le (ordered.active.below entry member) le)
    rw [updateChunks_redraw plain, ← List.append_assoc,
      Terminal.chunksFor_append_entriesChunks_of_not_mem absent, chunksFor_append_divider]
  shown := by
    intro entry member _
    have increasing := ordered.active.increasing
    refine ⟨Terminal.shownLines entry, Terminal.shownLines_le entry, ?_, ?_, ?_⟩
    · have shows := Terminal.shows_printEntry plain last entry
      rw [Terminal.chunks_printEntry] at shows
      rw [updateChunks_redraw plain, ← List.append_assoc,
        Terminal.chunksFor_append_entriesChunks increasing member, chunksFor_append_divider,
        List.nil_append]
      exact shows
    · intro _ visible
      exact if_pos visible
    · intro isOpen
      exact Terminal.lastSection_printEntries increasing member
        (ordered.active.openIsSection entry member isOpen)
        (ordered.active.newest entry.id isOpen)

end Progress
end Display
end TailView
