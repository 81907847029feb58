import TailView.Log.Entry
import TailView.Text.Json

/-!
# Entries as JSON

An entry is written as one object on one line.  Fields without a value are left out.
-/

namespace TailView
namespace Entry

/-- The field of an optional value. -/
def optionalField {α : Type} (name : String) (write : α → String) :
    Option α → List (String × String)
  | none => []
  | some value => [(name, write value)]

/-- The entry as a JSON object. -/
def json (entry : Entry) : String :=
  Text.Json.object (
    [("id", toString entry.id), ("kind", Text.Json.quoted entry.kind.name)] ++
    optionalField "severity" (fun severity => Text.Json.quoted severity.name) entry.severity ++
    [("text", Text.Json.quoted entry.text)] ++
    optionalField "correlation_id" toString entry.correlationId ++
    optionalField "counterpart" toString entry.counterpart ++
    [("visible", if entry.visible then "true" else "false")])

end Entry
end TailView
