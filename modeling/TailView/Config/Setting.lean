import TailView.Filter
import TailView.Amount
import TailView.Log.Classifier
import TailView.Toml.Value

/-!
# Settings in documents

A setting is read from a value of a document and written as one.  Texts may be given as dates or
times, numbers with a fraction as integers, and a choice between names also as a table whose only
key is the name and holds nothing.  A group of settings is a table with a key for each, or an array
of their values in order; what is not given has its standard value, and unknown keys do not count.
-/

namespace TailView
namespace Config

open Toml

/-- What can be set in a document. -/
class Setting (α : Type) where
  /-- The setting that a value gives, if it fits. -/
  ofValue? : Value → Option α
  /-- The setting as a value. -/
  toValue : α → Value

export Setting (ofValue? toValue)

instance : Setting String where
  ofValue?
    | .string text => some text
    | .datetime time => some time.text
    | _ => none
  toValue := .string

instance : Setting Bool where
  ofValue?
    | .boolean b => some b
    | _ => none
  toValue := .boolean

instance : Setting Nat where
  ofValue?
    | .integer n => if 0 ≤ n then some n.toNat else none
    | _ => none
  toValue n := .integer n

instance : Setting Number.Binary64 where
  ofValue?
    | .float x => some x
    | .integer n => some (.ofInt n)
    | _ => none
  toValue := .float

/-- Whether a value is a table or an array that holds nothing. -/
def holdsNothing : Value → Bool
  | .table entries => entries.isEmpty
  | .array items => items.isEmpty
  | _ => false

/-- The name that a value chooses. -/
def chosenName? : Value → Option String
  | .string name => some name
  | .table [(name, content)] => if holdsNothing content then some name else none
  | _ => none

/-- The choice with a name among several. -/
def choice? {α : Type} (name : α → String) (choices : List α) (value : Value) : Option α := do
  let chosen ← chosenName? value
  choices.find? fun choice => name choice = chosen

instance : Setting SizeUnit where
  ofValue? := choice? SizeUnit.name [.kb, .mb]
  toValue unit := .string unit.name

instance : Setting SectionRule where
  ofValue? := choice? SectionRule.name [.errorOnly, .multiLevel]
  toValue rule := .string rule.name

instance : Setting Filter.Mode where
  ofValue? := choice? Filter.Mode.name [.regex, .literal]
  toValue mode := .string mode.name

/-- Where the settings of a group come from. -/
inductive Group
  /-- A value under each key. -/
  | keyed (entries : Table)
  /-- The values in order. -/
  | ordered (items : List Value)

namespace Group

/-- The group of at most so many settings that a value gives. -/
def ofValue? (size : Nat) : Value → Option Group
  | .table entries => some (.keyed entries)
  | .array items => if items.length ≤ size then some (.ordered items) else none
  | _ => none

/-- The value of the setting with a position and a key. -/
def value? (group : Group) (position : Nat) (key : String) : Option Value :=
  match group with
  | .keyed entries => Entries.get? entries key
  | .ordered items => items[position]?

/-- The setting with a position and a key: the standard one if none is given, and none at all if the
given value does not fit. -/
def setting? {α : Type} [Setting α] (group : Group) (position : Nat) (key : String) (standard : α) :
    Option α :=
  match group.value? position key with
  | none => some standard
  | some value => Setting.ofValue? value

end Group
end Config
end TailView
