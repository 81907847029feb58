import TailView.Log.Timeline

/-!
# Scrollback

The main view keeps the latest entries up to its capacity.  Whenever an entry is added, entries are
dropped from the old end until the capacity is met; changing the capacity alone drops nothing.
-/

namespace TailView

/-- The latest entries of a stream. -/
structure Scrollback where
  /-- The entries that are kept. -/
  entries : Timeline := #[]
  /-- How many entries may be kept. -/
  capacity : Nat
  /-- How many entries were dropped so far. -/
  evicted : Nat := 0
deriving DecidableEq

namespace Scrollback

/-- An empty scrollback, with room for at least one entry. -/
def ofCapacity (capacity : Nat) : Scrollback := { capacity := max capacity 1 }

/-- Changes the capacity; it counts from the next added entry on. -/
def setCapacity (scrollback : Scrollback) (capacity : Nat) : Scrollback :=
  { scrollback with capacity := max capacity 1 }

/-- Forgets all entries. -/
def clear (scrollback : Scrollback) : Scrollback := { scrollback with entries := #[] }

/-- Adds an entry at the new end and drops old ones beyond the capacity; also the ids of the
dropped entries, oldest first. -/
def append (scrollback : Scrollback) (entry : Entry) : Scrollback × List EntryId :=
  let entries := scrollback.entries.push entry
  let excess := entries.size - scrollback.capacity
  if excess = 0 then ({ scrollback with entries }, [])
  else
    ({ scrollback with
        entries := entries.extract excess entries.size
        evicted := scrollback.evicted + excess },
      Timeline.ids (entries.extract 0 excess))

/-- The entry with the given id. -/
def find? (scrollback : Scrollback) (id : EntryId) : Option Entry := scrollback.entries.find? id

/-- Whether an entry with the given id is kept. -/
def contains (scrollback : Scrollback) (id : EntryId) : Bool := (scrollback.find? id).isSome

/-- Changes the entry with the given id. -/
def update (scrollback : Scrollback) (id : EntryId) (change : Entry → Entry) : Scrollback :=
  { scrollback with entries := scrollback.entries.update id change }

/-- Changes every entry. -/
def updateAll (scrollback : Scrollback) (change : Entry → Entry) : Scrollback :=
  { scrollback with entries := scrollback.entries.map change }

/-- Folds a line into the section with the given id. -/
def addLine (scrollback : Scrollback) (id : EntryId) (line : String) : Scrollback :=
  scrollback.update id (·.addLine line)

/-- A request with its answer noted; other entries are left alone. -/
def noteAnswer (answer : EntryId) (entry : Entry) : Entry :=
  if entry.kind = .requestStart then { entry with counterpart := some answer } else entry

/-- Notes that a request and an answer belong together; the answer is told its request even when
the request is gone. -/
def link (scrollback : Scrollback) (request answer : EntryId) : Scrollback :=
  (scrollback.update request (noteAnswer answer)).update answer fun entry =>
    { entry with counterpart := some request }

end Scrollback
end TailView
