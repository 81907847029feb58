import TailView.Number.Binary64
import TailView.Toml.Datetime
import TailView.Toml.Entries

/-!
# Values of documents

A value is a scalar, a list of values or a table of values.  Tables nest, so a value inside one is
found by the path of keys that leads to it.
-/

namespace TailView
namespace Toml

/-- A value of a document. -/
inductive Value
  | string (text : String)
  | integer (n : Int)
  | float (x : Number.Binary64)
  | boolean (b : Bool)
  | datetime (time : Datetime)
  | array (items : List Value)
  | table (entries : List (String × Value))

/-- The entries of a table. -/
abbrev Table := Entries Value

namespace Value

/-- Whether a value is a table. -/
def isTable : Value → Bool
  | .table _ => true
  | _ => false

/-- The value at the end of a path of keys. -/
def at? (value : Value) : List String → Option Value
  | [] => some value
  | key :: path =>
      match value with
      | .table entries =>
          match Entries.get? entries key with
          | some inner => inner.at? path
          | none => none
      | _ => none

end Value
end Toml
end TailView
