import Mathlib.Tactic.ByContra
import TailView.Log.Timeline

/-!
# Finding entries by their ids

When the ids of a timeline increase, halving finds the only entry with an id.  Changing the entry
with an id is then the same as looking at every entry, and that form commutes with whatever else is
done to a timeline.
-/

namespace TailView
namespace Timeline

variable {entries : Timeline} {entry : Entry} {id : EntryId} {index : Nat}

/-- An entry changed if it has a given id. -/
def changeAt (id : EntryId) (change : Entry → Entry) (entry : Entry) : Entry :=
  if entry.id = id then change entry else entry

@[simp] theorem changeAt_same (change : Entry → Entry) (entry : Entry) :
    changeAt entry.id change entry = change entry :=
  if_pos rfl

theorem changeAt_other
    (change : Entry → Entry)
    (different : entry.id ≠ id) :
    changeAt id change entry = entry :=
  if_neg different

/-- Earlier entries have smaller ids. -/
theorem Increasing.id_lt
    (increasing : entries.Increasing)
    {first second : Entry}
    {i j : Nat}
    (earlier : entries[i]? = some first)
    (later : entries[j]? = some second)
    (before : i < j) :
    first.id < second.id := by
  obtain ⟨hi, rfl⟩ := Array.getElem?_eq_some_iff.mp earlier
  obtain ⟨hj, rfl⟩ := Array.getElem?_eq_some_iff.mp later
  have pairs := List.pairwise_iff_getElem.mp increasing i j
    (by simpa [ids] using hi) (by simpa [ids] using hj) before
  simpa [ids] using pairs

/-- Two places with the same id are the same place. -/
theorem Increasing.index_eq
    (increasing : entries.Increasing)
    {first second : Entry}
    {i j : Nat}
    (left : entries[i]? = some first)
    (right : entries[j]? = some second)
    (same : first.id = second.id) :
    i = j := by
  rcases Nat.lt_trichotomy i j with before | equal | after
  · exact absurd same (Nat.ne_of_lt (increasing.id_lt left right before))
  · exact equal
  · exact absurd same.symm (Nat.ne_of_lt (increasing.id_lt right left after))

/-- Halving ends at the place of the id if that place is in the part that is searched. -/
theorem narrow_eq
    (increasing : entries.Increasing)
    (found : entries[index]? = some entry)
    (base size : Nat)
    (low : base ≤ index)
    (high : index < base + size) :
    narrow entries entry.id base size = index := by
  induction size using Nat.strongRecOn generalizing base with
  | ind size inductionHypothesis =>
      unfold narrow
      split
      · omega
      · next large =>
          have smaller : size - size / 2 < size := by omega
          cases middle : entries[base + size / 2]? with
          | none =>
              have missing := Array.getElem?_eq_none_iff.mp middle
              obtain ⟨inside, _⟩ := Array.getElem?_eq_some_iff.mp found
              simp only [middle]
              exact inductionHypothesis _ smaller base low (by omega)
          | some other =>
              simp only [middle]
              split
              · next below =>
                  -- the id is smaller than the one in the middle, so its place is before that
                  have before : index < base + size / 2 := by
                    by_contra outside
                    rcases Nat.lt_or_eq_of_le (Nat.le_of_not_lt outside) with after | same
                    · exact Nat.lt_asymm below (increasing.id_lt middle found after)
                    · rw [← same, middle] at found
                      cases found
                      exact Nat.lt_irrefl _ below
                  exact inductionHypothesis _ smaller base low (by omega)
              · next notBelow =>
                  have fromMiddle : base + size / 2 ≤ index := by
                    by_contra outside
                    exact notBelow (increasing.id_lt found middle (by omega))
                  have inside : index < base + size / 2 + (size - size / 2) := by omega
                  exact inductionHypothesis _ smaller _ fromMiddle inside

/-- Halving finds exactly the place of the id. -/
theorem index?_eq_some_iff (increasing : entries.Increasing) :
    entries.index? id = some index ↔ ∃ entry, entries[index]? = some entry ∧ entry.id = id := by
  unfold index?
  constructor
  · intro found
    cases place : entries[narrow entries id 0 entries.size]? with
    | none => simp [place] at found
    | some entry =>
        simp only [place] at found
        split at found
        · next same =>
            cases found
            exact ⟨entry, place, same⟩
        · cases found
  · rintro ⟨entry, place, rfl⟩
    obtain ⟨inside, _⟩ := Array.getElem?_eq_some_iff.mp place
    have arrives := narrow_eq increasing place 0 entries.size (Nat.zero_le _) (by omega)
    simp [arrives, place]

/-- Looking up an id finds exactly the entry that has it. -/
theorem find?_eq_some_iff (increasing : entries.Increasing) :
    entries.find? id = some entry ↔ entry ∈ entries.toList ∧ entry.id = id := by
  unfold find?
  constructor
  · intro found
    obtain ⟨index, atIndex, place⟩ := Option.bind_eq_some_iff.mp found
    obtain ⟨other, otherPlace, same⟩ := (index?_eq_some_iff increasing).mp atIndex
    rw [place] at otherPlace
    cases otherPlace
    exact ⟨Array.mem_toList_iff.mpr (Array.mem_of_getElem? place), same⟩
  · rintro ⟨member, same⟩
    obtain ⟨index, place⟩ := Array.mem_iff_getElem?.mp (Array.mem_toList_iff.mp member)
    have atIndex := (index?_eq_some_iff increasing).mpr ⟨entry, place, same⟩
    simp [atIndex, place]

/-- An id is found when an entry has it. -/
theorem find?_isSome_iff (increasing : entries.Increasing) :
    (entries.find? id).isSome ↔ ∃ entry ∈ entries.toList, entry.id = id := by
  rw [Option.isSome_iff_exists]
  exact exists_congr fun entry => find?_eq_some_iff increasing

/-- Changing one place changes exactly the entries with its id. -/
theorem toList_modify
    (increasing : entries.Increasing)
    (change : Entry → Entry)
    (place : entries[index]? = some entry) :
    (entries.modify index change).toList = entries.toList.map (changeAt entry.id change) := by
  apply List.ext_getElem?
  intro position
  rw [Array.toList_modify, List.getElem?_modify, List.getElem?_map, Array.getElem?_toList]
  cases here : entries[position]? with
  | none => simp
  | some other =>
      by_cases same : index = position
      · subst same
        rw [here] at place
        cases place
        simp
      · have different : other.id ≠ entry.id := by
          intro equal
          exact same (increasing.index_eq here place equal).symm
        simp [same, changeAt_other change different]

/-- Nothing changes under an id that no entry has. -/
theorem map_changeAt_of_forall_ne
    {list : List Entry}
    (change : Entry → Entry)
    (absent : ∀ entry ∈ list, entry.id ≠ id) :
    list.map (changeAt id change) = list := by
  rw [List.map_congr_left fun entry member => changeAt_other change (absent entry member)]
  exact List.map_id' list

/-- Changing the entry with an id is looking at every entry. -/
theorem toList_update (increasing : entries.Increasing) (change : Entry → Entry) :
    (entries.update id change).toList = entries.toList.map (changeAt id change) := by
  unfold update
  cases place : entries.index? id with
  | none =>
      simp only
      rw [map_changeAt_of_forall_ne]
      intro entry member same
      obtain ⟨index, atIndex⟩ := Array.mem_iff_getElem?.mp (Array.mem_toList_iff.mp member)
      rw [(index?_eq_some_iff increasing).mpr ⟨entry, atIndex, same⟩] at place
      cases place
  | some index =>
      obtain ⟨entry, atIndex, rfl⟩ := (index?_eq_some_iff increasing).mp place
      exact toList_modify increasing change atIndex

/-- The last place with an id is its only place. -/
theorem lastIndex?_eq_some_iff (increasing : entries.Increasing) :
    entries.lastIndex? id = some index ↔ ∃ entry, entries[index]? = some entry ∧ entry.id = id := by
  unfold lastIndex?
  constructor
  · intro found
    have holds := List.find?_some found
    cases place : entries[index]? with
    | none => simp [place] at holds
    | some entry => exact ⟨entry, rfl, by simpa [place] using holds⟩
  · rintro ⟨entry, place, same⟩
    obtain ⟨inside, _⟩ := Array.getElem?_eq_some_iff.mp place
    have present : ∃ position ∈ (List.range entries.size).reverse,
        (entries[position]?.any (·.id = id)) = true :=
      ⟨index, by simpa using inside, by simp [place, same]⟩
    obtain ⟨position, found⟩ := Option.isSome_iff_exists.mp (List.find?_isSome.mpr present)
    rw [found]
    have holds := List.find?_some found
    cases here : entries[position]? with
    | none => simp [here] at holds
    | some other =>
        have otherSame : other.id = id := by simpa [here] using holds
        rw [increasing.index_eq here place (otherSame.trans same.symm)]

end Timeline
end TailView
