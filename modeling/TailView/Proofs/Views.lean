import Mathlib.Data.List.DropRight
import TailView.Log.ErrorFocus
import TailView.Log.Scrollback
import TailView.Proofs.Timeline

/-!
# The two views as lists

What the operations of the scrollback and of the view of errors do to the list of their entries.
The scrollback keeps the last entries up to its capacity, so everything that looks at one entry at a
time commutes with the dropping of old ones.
-/

namespace TailView

section LastEntries

variable {α β : Type} {kept : Nat} {list : List α}

theorem mem_of_mem_rtake {item : α} (member : item ∈ list.rtake kept) : item ∈ list :=
  List.mem_of_mem_drop member

theorem rtake_suffix (kept : Nat) (list : List α) : list.rtake kept <:+ list :=
  List.drop_suffix _ list

theorem map_rtake (function : α → β) (kept : Nat) (list : List α) :
    (list.rtake kept).map function = (list.map function).rtake kept := by
  simp [List.rtake, List.map_drop]

/-- The last entries of the last entries are the last entries. -/
theorem rtake_rtake_of_le {smaller : Nat} (le : smaller ≤ kept) (list : List α) :
    (list.rtake kept).rtake smaller = list.rtake smaller := by
  simp only [List.rtake, List.length_drop, List.drop_drop]
  congr 1
  omega

theorem length_rtake (kept : Nat) (list : List α) :
    (list.rtake kept).length = min list.length kept := by
  rw [List.rtake, List.length_drop]
  omega

/-- No more entries can be kept than there are. -/
theorem rtake_min_length (kept : Nat) (list : List α) :
    list.rtake (min list.length kept) = list.rtake kept := by
  simp only [List.rtake]
  congr 1
  omega

/-- An entry added to the last entries is added to all of them. -/
theorem rtake_append_of_rtake (kept : Nat) (list added : List α) :
    (list.rtake kept ++ added).rtake kept = (list ++ added).rtake kept := by
  simp only [List.rtake]
  by_cases short : list.length ≤ kept
  · simp [Nat.sub_eq_zero_of_le short]
  · have prefixLength : (list.drop (list.length - kept)).length = kept := by
      rw [List.length_drop]
      omega
    rw [List.drop_append, List.drop_append, List.drop_drop, List.length_append,
      List.length_append, prefixLength]
    congr 2 <;> omega

/-- As long as the length fits, nothing is dropped. -/
theorem rtake_of_length_le (fits : list.length ≤ kept) : list.rtake kept = list := by
  simp [List.rtake, Nat.sub_eq_zero_of_le fits]

end LastEntries

namespace Timeline

/-- The order of ids does not depend on anything but the ids. -/
theorem increasing_iff (entries : Timeline) :
    entries.Increasing ↔ entries.toList.Pairwise fun first second => first.id < second.id :=
  List.pairwise_map

theorem Increasing.of_toList_eq_map
    {entries changed : Timeline}
    {change : Entry → Entry}
    (increasing : entries.Increasing)
    (changedEntries : changed.toList = entries.toList.map change)
    (keepsId : ∀ entry, (change entry).id = entry.id) :
    changed.Increasing := by
  unfold Increasing ids at *
  rw [changedEntries, List.map_map]
  simpa [Function.comp_def, keepsId] using increasing

/-- Changing twice under one id is changing once. -/
theorem changeAt_changeAt
    (id : EntryId)
    (first second : Entry → Entry)
    (keepsId : ∀ entry, (first entry).id = entry.id) :
    changeAt id second ∘ changeAt id first = changeAt id (second ∘ first) := by
  funext entry
  by_cases same : entry.id = id
  · simp [changeAt, same, keepsId]
  · simp [changeAt, same]

end Timeline

namespace Scrollback

variable {scrollback : Scrollback} {id : EntryId}

/-- A scrollback that is made has room for an entry. -/
theorem capacity_ofCapacity_pos (capacity : Nat) : 0 < (ofCapacity capacity).capacity :=
  Nat.lt_of_lt_of_le Nat.one_pos (Nat.le_max_right _ _)

/-- However the capacity is changed, there is room for an entry. -/
theorem capacity_setCapacity_pos (scrollback : Scrollback) (capacity : Nat) :
    0 < (scrollback.setCapacity capacity).capacity :=
  capacity_ofCapacity_pos capacity

@[simp] theorem capacity_append (scrollback : Scrollback) (entry : Entry) :
    (scrollback.append entry).1.capacity = scrollback.capacity := by
  unfold append
  simp only
  split <;> rfl

/-- The scrollback keeps the last entries. -/
theorem entries_append (scrollback : Scrollback) (entry : Entry) :
    (scrollback.append entry).1.entries.toList =
      (scrollback.entries.toList ++ [entry]).rtake scrollback.capacity := by
  unfold append
  simp only [List.rtake, List.length_append, List.length_singleton, Array.size_push,
    Array.length_toList]
  split
  · next fits => simp [fits]
  · rw [Array.toList_extract, List.extract_eq_take_drop, Array.toList_push]
    apply List.take_of_length_le
    simp

/-- The number of dropped entries grows by the excess. -/
theorem evicted_append (scrollback : Scrollback) (entry : Entry) :
    (scrollback.append entry).1.evicted =
      scrollback.evicted + (scrollback.entries.toList.length + 1 - scrollback.capacity) := by
  unfold append
  simp only [Array.size_push, Array.length_toList]
  split
  · next fits => simp [fits]
  · rfl

@[simp] theorem capacity_update (scrollback : Scrollback) (change : Entry → Entry) :
    (scrollback.update id change).capacity = scrollback.capacity :=
  rfl

@[simp] theorem evicted_update (scrollback : Scrollback) (change : Entry → Entry) :
    (scrollback.update id change).evicted = scrollback.evicted :=
  rfl

theorem entries_update
    (increasing : scrollback.entries.Increasing)
    (change : Entry → Entry) :
    (scrollback.update id change).entries.toList =
      scrollback.entries.toList.map (Timeline.changeAt id change) :=
  Timeline.toList_update increasing change

/-- An id is contained when an entry has it. -/
theorem contains_iff (increasing : scrollback.entries.Increasing) :
    scrollback.contains id ↔ ∃ entry ∈ scrollback.entries.toList, entry.id = id :=
  Timeline.find?_isSome_iff increasing

/-- The scrollback after an entry came in, which is linked to the request that it answers. -/
def enter (scrollback : Scrollback) (entry : Entry) : Scrollback :=
  match entry.kind, entry.counterpart with
  | .requestEnd, some request => (scrollback.append entry).1.link request entry.id
  | _, _ => (scrollback.append entry).1

/-- An entry after another came in that may be its answer. -/
def answeredBy (answer entry : Entry) : Entry :=
  match answer.kind, answer.counterpart with
  | .requestEnd, some request => Timeline.changeAt request (noteAnswer answer.id) entry
  | _, _ => entry

/-- What an answer changes in an entry is no more than its counterpart. -/
theorem answeredBy_eq (answer entry : Entry) :
    ∃ counterpart, answeredBy answer entry = { entry with counterpart } := by
  unfold answeredBy
  split
  · unfold Timeline.changeAt noteAnswer
    split
    · split
      · exact ⟨_, rfl⟩
      · exact ⟨_, rfl⟩
    · exact ⟨_, rfl⟩
  · exact ⟨_, rfl⟩

theorem id_answeredBy (answer entry : Entry) : (answeredBy answer entry).id = entry.id := by
  obtain ⟨counterpart, same⟩ := answeredBy_eq answer entry
  rw [same]

theorem kind_answeredBy (answer entry : Entry) :
    (answeredBy answer entry).kind = entry.kind := by
  obtain ⟨counterpart, same⟩ := answeredBy_eq answer entry
  rw [same]

theorem text_answeredBy (answer entry : Entry) :
    (answeredBy answer entry).text = entry.text := by
  obtain ⟨counterpart, same⟩ := answeredBy_eq answer entry
  rw [same]

theorem correlationId_answeredBy (answer entry : Entry) :
    (answeredBy answer entry).correlationId = entry.correlationId := by
  obtain ⟨counterpart, same⟩ := answeredBy_eq answer entry
  rw [same]

theorem isSection_answeredBy (answer entry : Entry) :
    (answeredBy answer entry).isSection = entry.isSection := by
  rw [Entry.isSection, Entry.isSection, kind_answeredBy]

theorem isError_answeredBy (answer entry : Entry) :
    (answeredBy answer entry).isError = entry.isError := by
  obtain ⟨counterpart, same⟩ := answeredBy_eq answer entry
  rw [same]
  rfl

/-- Only requests are told of answers. -/
theorem answeredBy_of_kind_ne {answer entry : Entry} (noStart : entry.kind ≠ .requestStart) :
    answeredBy answer entry = entry := by
  unfold answeredBy Timeline.changeAt noteAnswer
  split
  · rw [if_neg noStart, ite_self]
  · rfl

/-- Errors are not told of answers. -/
theorem answeredBy_of_isError {answer entry : Entry} (isError : entry.isError = true) :
    answeredBy answer entry = entry := by
  apply answeredBy_of_kind_ne
  intro isStart
  simp [Entry.isError, Entry.isSection, isStart] at isError

@[simp] theorem capacity_enter (scrollback : Scrollback) (entry : Entry) :
    (scrollback.enter entry).capacity = scrollback.capacity := by
  unfold enter
  split <;> simp [link]

theorem evicted_enter (scrollback : Scrollback) (entry : Entry) :
    (scrollback.enter entry).evicted =
      scrollback.evicted + (scrollback.entries.toList.length + 1 - scrollback.capacity) := by
  unfold enter
  split <;> simp [link, evicted_append]

/-- An entry whose id is above all others can be added in order. -/
theorem increasing_append
    {entry : Entry}
    (increasing : scrollback.entries.Increasing)
    (newest : ∀ other ∈ scrollback.entries.toList, other.id < entry.id) :
    (scrollback.append entry).1.entries.Increasing := by
  rw [Timeline.increasing_iff, entries_append]
  apply List.Pairwise.sublist (rtake_suffix _ _).sublist
  rw [List.pairwise_append]
  refine ⟨(Timeline.increasing_iff _).mp increasing, List.pairwise_singleton _ _, ?_⟩
  intro first member second isEntry
  rw [List.mem_singleton.mp isEntry]
  exact newest first member

/-- An entry that comes in is put behind the others, and the one that it answers is told. -/
theorem entries_enter
    {entry : Entry}
    (increasing : scrollback.entries.Increasing)
    (newest : ∀ other ∈ scrollback.entries.toList, other.id < entry.id) :
    (scrollback.enter entry).entries.toList =
      (scrollback.entries.toList.map (answeredBy entry) ++ [entry]).rtake scrollback.capacity := by
  unfold enter
  split
  · next request isEnd answers =>
      have appended := increasing_append increasing newest
      have told : ((scrollback.append entry).1.update request
          (noteAnswer entry.id)).entries.Increasing :=
        appended.of_toList_eq_map (entries_update appended _) fun other => by
          unfold Timeline.changeAt noteAnswer
          split <;> (try split) <;> rfl
      rw [link, entries_update told, entries_update appended, entries_append, map_rtake, map_rtake]
      congr 1
      -- the answer itself is no request and has its counterpart already
      have self : Timeline.changeAt request (noteAnswer entry.id) entry = entry := by
        simp [Timeline.changeAt, noteAnswer, isEnd]
      have others : ∀ other ∈ scrollback.entries.toList,
          Timeline.changeAt entry.id (fun answer => { answer with counterpart := some request })
            (Timeline.changeAt request (noteAnswer entry.id) other) = answeredBy entry other := by
        intro other member
        obtain ⟨counterpart, same⟩ := answeredBy_eq entry other
        have unfolded : answeredBy entry other =
            Timeline.changeAt request (noteAnswer entry.id) other := by
          simp [answeredBy, isEnd, answers]
        rw [← unfolded]
        apply Timeline.changeAt_other
        rw [same]
        exact Nat.ne_of_lt (newest other member)
      rw [List.map_append, List.map_append, List.map_map]
      congr 1
      · exact List.map_congr_left others
      · simp only [List.map_cons, List.map_nil, self, Timeline.changeAt_same]
        rw [← answers]
  · next noLink =>
      have unchanged : answeredBy entry = id := by
        funext other
        unfold answeredBy
        split
        · next request isEnd answers => exact absurd answers (noLink request isEnd)
        · rfl
      rw [entries_append, unchanged, List.map_id]

end Scrollback

namespace ErrorFocus

variable {focus grown : ErrorFocus} {id : EntryId} {line : String}

/-- A line finds its section when the view has the id. -/
theorem addLine?_eq_none_iff (increasing : focus.sections.Increasing) :
    focus.addLine? id line = none ↔ ∀ entry ∈ focus.sections.toList, entry.id ≠ id := by
  unfold addLine?
  rw [Option.map_eq_none_iff, Option.eq_none_iff_forall_ne_some]
  constructor
  · intro nowhere entry member same
    obtain ⟨index, place⟩ := Array.mem_iff_getElem?.mp (Array.mem_toList_iff.mp member)
    exact nowhere index ((Timeline.lastIndex?_eq_some_iff increasing).mpr ⟨entry, place, same⟩)
  · intro absent index found
    obtain ⟨entry, place, same⟩ := (Timeline.lastIndex?_eq_some_iff increasing).mp found
    exact absent entry (Array.mem_toList_iff.mpr (Array.mem_of_getElem? place)) same

/-- A line is folded into the section that has the id. -/
theorem sections_addLine?
    (increasing : focus.sections.Increasing)
    (found : focus.addLine? id line = some grown) :
    grown.sections.toList = focus.sections.toList.map (Timeline.changeAt id (·.addLine line)) ∧
      grown.active = focus.active := by
  obtain ⟨index, atIndex, rfl⟩ := Option.map_eq_some_iff.mp found
  obtain ⟨entry, place, rfl⟩ := (Timeline.lastIndex?_eq_some_iff increasing).mp atIndex
  exact ⟨Timeline.toList_modify increasing _ place, rfl⟩

/-- The newest section is the last one, so changing the last one if it has the id is changing the
section with the id. -/
theorem sections_updateLast
    (increasing : focus.sections.Increasing)
    (change : Entry → Entry)
    (newest : ∀ entry ∈ focus.sections.toList, entry.id ≤ id)
    (present : ∃ entry ∈ focus.sections.toList, entry.id = id) :
    (focus.updateLast id change).sections.toList =
      focus.sections.toList.map (Timeline.changeAt id change) := by
  obtain ⟨entry, member, rfl⟩ := present
  obtain ⟨index, place⟩ := Array.mem_iff_getElem?.mp (Array.mem_toList_iff.mp member)
  obtain ⟨inside, _⟩ := Array.getElem?_eq_some_iff.mp place
  obtain ⟨last, lastPlace⟩ : ∃ last, focus.sections[focus.sections.size - 1]? = some last :=
    ⟨_, Array.getElem?_eq_getElem (by omega)⟩
  have lastSame : last.id = entry.id := by
    have le := newest last (Array.mem_toList_iff.mpr (Array.mem_of_getElem? lastPlace))
    rcases Nat.lt_or_ge index (focus.sections.size - 1) with before | same
    · exact absurd (increasing.id_lt place lastPlace before) (Nat.not_lt.mpr le)
    · have equal : index = focus.sections.size - 1 := by omega
      rw [equal, lastPlace] at place
      cases place
      rfl
  unfold updateLast
  rw [Array.back?_eq_getElem?, lastPlace]
  simp only [lastSame, if_true]
  rw [Timeline.toList_modify increasing change lastPlace, lastSame]

@[simp] theorem active_updateLast (focus : ErrorFocus) (change : Entry → Entry) :
    (focus.updateLast id change).active = focus.active := by
  unfold updateLast
  split
  · split <;> rfl
  · rfl

end ErrorFocus
end TailView
