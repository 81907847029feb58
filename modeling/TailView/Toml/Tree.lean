import TailView.Toml.Value

/-!
# Documents under construction

While a document is read its tables grow.  How a table came to be decides how it may still grow: a
table with a heading of its own is never headed again, a table that only a longer heading implied
may still get one, and a table made by a dotted key is open to dotted keys but not to a heading.  No
key is given a value twice.
-/

namespace TailView
namespace Toml

/-- How a table came to be. -/
inductive Origin
  /-- It has a heading, or is the whole document. -/
  | headed
  /-- It lies on the way to a table with a heading. -/
  | implied
  /-- It lies on the way of a dotted key. -/
  | dotted
deriving DecidableEq, Repr

/-- What a key holds while a document is read. -/
inductive Node
  /-- A value, which does not grow. -/
  | value (value : Value)
  /-- A table. -/
  | table (origin : Origin) (entries : List (String × Node))
  /-- The tables of an array, the latest one first. -/
  | elements (tables : List (List (String × Node)))

/-- Where a value goes: the keys on the way, and the last one. -/
structure KeyPath where
  parents : List String
  last : String
deriving DecidableEq, Repr

/-- A table while a document is read. -/
abbrev Growth := Entries Node

namespace Growth

/-- Changes the table at the end of a path.  Missing tables on the way are made, of an array the
latest table counts, and a dotted way does not enter tables that have a heading. -/
def changeAt (step : Origin) (change : Origin → Growth → Option Growth) :
    List String → Origin → Growth → Option Growth
  | [], origin, entries => change origin entries
  | key :: path, _, entries =>
      match entries.get? key with
      | none => (changeAt step change path step []).map fun inner =>
          entries.insert key (.table step inner)
      | some (.value _) => none
      | some (.elements []) => none
      | some (.elements (latest :: earlier)) =>
          (changeAt step change path .headed latest).map fun inner =>
            entries.insert key (.elements (inner :: earlier))
      | some (.table origin inner) =>
          if step = .dotted ∧ origin = .headed then none
          else (changeAt step change path origin inner).map fun inner =>
            entries.insert key (.table origin inner)

/-- Gives a key without a value one. -/
def add (entries : Growth) (key : String) (value : Value) : Option Growth :=
  match entries.get? key with
  | none => some (entries.insert key (.value value))
  | some _ => none

/-- Gives the key at the end of a path a value.  A dotted key ends in a table made by dotted keys. -/
def assign (path : KeyPath) (value : Value) (entries : Growth) : Option Growth :=
  changeAt .dotted (fun origin inner =>
    if path.parents ≠ [] ∧ origin ≠ .dotted then none else inner.add path.last value)
    path.parents .headed entries

/-- Gives the table at the end of a path a heading. -/
def head (path : KeyPath) (entries : Growth) : Option Growth :=
  changeAt .implied (fun _ inner =>
    match inner.get? path.last with
    | none => some (inner.insert path.last (.table .headed []))
    | some (.table .implied found) => some (inner.insert path.last (.table .headed found))
    | some _ => none) path.parents .headed entries

/-- Starts a table of the array at the end of a path. -/
def startElement (path : KeyPath) (entries : Growth) : Option Growth :=
  changeAt .implied (fun _ inner =>
    match inner.get? path.last with
    | none => some (inner.insert path.last (.elements [[]]))
    | some (.elements tables) => some (inner.insert path.last (.elements ([] :: tables)))
    | some _ => none) path.parents .headed entries

/-- Gives a key a value inside the table that the latest heading leads to. -/
def assignUnder (section? : Option KeyPath) (path : KeyPath) (value : Value) (entries : Growth) :
    Option Growth :=
  match section? with
  | none => entries.assign path value
  | some heading =>
      changeAt .implied (fun _ inner => inner.assign path value)
        (heading.parents ++ [heading.last]) .headed entries

end Growth

mutual

/-- The value of a node. -/
def Node.toValue : Node → Value
  | .value value => value
  | .table _ entries => .table (Growth.toTable entries)
  | .elements tables => .array (Growth.toItems tables [])

/-- The table of finished entries. -/
def Growth.toTable : List (String × Node) → List (String × Value)
  | [] => []
  | (key, node) :: rest => (key, node.toValue) :: Growth.toTable rest

/-- The tables of an array in the order of the document, followed by given items. -/
def Growth.toItems : List (List (String × Node)) → List Value → List Value
  | [], items => items
  | table :: earlier, items => Growth.toItems earlier (.table (Growth.toTable table) :: items)

end

end Toml
end TailView
