import TailView.Log.Severity
import TailView.Text.Split

/-!
# Log entries

An entry is what a view shows as one unit: a single line, or a section with all the lines folded
into it.  Ids are handed out in increasing order, so the order of ids is the order of arrival.
-/

namespace TailView

/-- The identity of an entry. -/
abbrev EntryId := Nat

/-- How an id is written for a reader. -/
def EntryId.display (id : EntryId) : String := "#" ++ toString id

namespace Entry

/-- What kind of output an entry is. -/
inductive Kind
  /-- A line with no known shape. -/
  | plain
  /-- A section: a line with a marker and the lines folded into it. -/
  | sectionHead
  /-- A line that belongs to the open section; it is folded into that section and not stored. -/
  | continuation
  /-- The start of a request. -/
  | requestStart
  /-- The answer to a request. -/
  | requestEnd
  /-- A message of the viewer itself or a notice of the server. -/
  | info
deriving DecidableEq, Repr

/-- The name of a kind. -/
def Kind.name : Kind → String
  | .plain => "plain"
  | .sectionHead => "error-section-head"
  | .continuation => "error-section-continuation"
  | .requestStart => "request-start"
  | .requestEnd => "request-end"
  | .info => "info"

end Entry

/-- One unit of output. -/
structure Entry where
  /-- The identity. -/
  id : EntryId
  /-- What kind of output it is. -/
  kind : Entry.Kind
  /-- How serious it is, for sections only. -/
  severity : Option Severity := none
  /-- The text; a section holds all its lines, joined by newlines. -/
  text : String
  /-- The number of the request, for requests and answers only. -/
  correlationId : Option Nat := none
  /-- The answer to a request, or the request of an answer, once both were seen. -/
  counterpart : Option EntryId := none
  /-- Whether the filter lets the entry be seen. -/
  visible : Bool := true
deriving DecidableEq, Repr

namespace Entry

/-- Whether the entry is a section. -/
def isSection (entry : Entry) : Bool := entry.kind = .sectionHead

/-- Whether the entry is a section of errors. -/
def isError (entry : Entry) : Bool := entry.isSection && entry.severity = some .error

/-- A section with one more line folded into it. -/
def addLine (entry : Entry) (line : String) : Entry :=
  { entry with text := entry.text ++ "\n" ++ line }

/-- The lines of the text. -/
def lines (entry : Entry) : List String := Text.lines entry.text

@[simp]
theorem id_addLine (entry : Entry) (line : String) : (entry.addLine line).id = entry.id := rfl

@[simp]
theorem kind_addLine (entry : Entry) (line : String) : (entry.addLine line).kind = entry.kind := rfl

@[simp]
theorem visible_addLine (entry : Entry) (line : String) :
    (entry.addLine line).visible = entry.visible := rfl

@[simp]
theorem isError_addLine (entry : Entry) (line : String) :
    (entry.addLine line).isError = entry.isError := rfl

end Entry
end TailView
