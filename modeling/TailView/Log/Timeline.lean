import TailView.Log.Entry

/-!
# Entries in the order of their ids

A view keeps its entries in an array in which the ids increase, so an entry is found by halving the
part of the array that can hold it.
-/

namespace TailView

/-- Entries in order of arrival. -/
abbrev Timeline := Array Entry

namespace Timeline

/-- The ids from the first entry to the last. -/
def ids (entries : Timeline) : List EntryId := entries.toList.map (·.id)

/-- Each id is smaller than the next. -/
def Increasing (entries : Timeline) : Prop := entries.ids.Pairwise (· < ·)

/-- Halves the part of `size` entries from `base` on until one is left, and keeps the half that an
entry with the given id would be in. -/
def narrow (entries : Timeline) (id : EntryId) (base size : Nat) : Nat :=
  if _h : size ≤ 1 then base
  else
    let half := size / 2
    let middle := base + half
    let base :=
      match entries[middle]? with
      | some entry => if id < entry.id then base else middle
      | none => base
    narrow entries id base (size - half)
termination_by size
decreasing_by omega

/-- Where the entry with the given id is. -/
def index? (entries : Timeline) (id : EntryId) : Option Nat :=
  let index := narrow entries id 0 entries.size
  match entries[index]? with
  | some entry => if entry.id = id then some index else none
  | none => none

/-- The entry with the given id. -/
def find? (entries : Timeline) (id : EntryId) : Option Entry :=
  (entries.index? id).bind fun index => entries[index]?

/-- The entries with the one of the given id changed. -/
def update (entries : Timeline) (id : EntryId) (change : Entry → Entry) : Timeline :=
  match entries.index? id with
  | some index => entries.modify index change
  | none => entries

/-- Where the last entry with the given id is. -/
def lastIndex? (entries : Timeline) (id : EntryId) : Option Nat :=
  (List.range entries.size).reverse.find? fun index => entries[index]?.any (·.id = id)

end Timeline
end TailView
