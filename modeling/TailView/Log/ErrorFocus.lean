import TailView.Log.Timeline

/-!
# The view of errors only

Besides the main view there is one that shows error sections only.  It keeps copies of its own, so
an error stays here when the main view has dropped it.
-/

namespace TailView

/-- The error sections seen since the view was last cleared, and whether they are on show. -/
structure ErrorFocus where
  /-- The sections in order of arrival. -/
  sections : Timeline := #[]
  /-- Whether this view is shown instead of the main one. -/
  active : Bool := false
deriving DecidableEq

namespace ErrorFocus

/-- Keeps a section that was just opened. -/
def add (focus : ErrorFocus) (entry : Entry) : ErrorFocus :=
  { focus with sections := focus.sections.push entry }

/-- Folds a line into the last section with the given id, if there is one. -/
def addLine? (focus : ErrorFocus) (id : EntryId) (line : String) : Option ErrorFocus :=
  (focus.sections.lastIndex? id).map fun index =>
    { focus with sections := focus.sections.modify index (·.addLine line) }

/-- Switches between this view and the main one. -/
def toggle (focus : ErrorFocus) : ErrorFocus := { focus with active := !focus.active }

/-- The section with the given id. -/
def find? (focus : ErrorFocus) (id : EntryId) : Option Entry := focus.sections.find? id

/-- Changes every section. -/
def updateAll (focus : ErrorFocus) (change : Entry → Entry) : ErrorFocus :=
  { focus with sections := focus.sections.map change }

/-- Changes the last section if it has the given id. -/
def updateLast (focus : ErrorFocus) (id : EntryId) (change : Entry → Entry) : ErrorFocus :=
  match focus.sections.back? with
  | some entry =>
      if entry.id = id then
        { focus with sections := focus.sections.modify (focus.sections.size - 1) change }
      else focus
  | none => focus

/-- Forgets all sections; which view is shown stays as it is. -/
def clear (focus : ErrorFocus) : ErrorFocus := { focus with sections := #[] }

end ErrorFocus
end TailView
