import TailView.Config.Layers
import TailView.Number.Integer

/-!
# Changing one setting

A setting is named by its group and its key, `tail.follow`.  Its new value is given as text and read
as a value of the kind that it replaces.  The document is changed only if the result is still a
configuration; everything else in it is kept, except for comments and layout.
-/

namespace TailView
namespace Config

open Toml

/-- Why a setting cannot be changed. -/
inductive EditError
  /-- The file is there but cannot be read as text. -/
  | unreadable
  /-- The file is no document. -/
  | noDocument
  /-- The name has no group. -/
  | noGroup (key : String)
  /-- There is no such setting. -/
  | unknownKey (key : String)
  /-- The document has something else in the place of the group. -/
  | noTable (group : String)
  /-- The new value is no integer. -/
  | noInteger (key raw : String)
  /-- The new value is no number. -/
  | noNumber (key raw : String)
  /-- The result is no configuration. -/
  | misfit (key raw : String)
deriving DecidableEq, Repr

/-- What the user is told about a setting that cannot be changed. -/
def EditError.message : EditError → String
  | .unreadable => "failed to read config file"
  | .noDocument => "failed to parse config as TOML value"
  | .noGroup key => "config key must be 'section.key', got '" ++ key ++ "'"
  | .unknownKey key => "unknown config key '" ++ key ++ "'"
  | .noTable group => "expected table at '" ++ group ++ "'"
  | .noInteger key raw => "expected integer for '" ++ key ++ "', got '" ++ raw ++ "'"
  | .noNumber key raw => "expected number for '" ++ key ++ "', got '" ++ raw ++ "'"
  | .misfit key raw => "invalid value '" ++ raw ++ "' for '" ++ key ++ "'"

/-- A table with its entries, and those of the tables in it, in the order of their keys. -/
def sorted (table : Table) : Table :=
  table.foldl (fun sorted (key, value) =>
    sorted.insert key
      (match value with
        | .table entries => .table (entries.foldl (fun inner (key, value) =>
            Entries.insert inner key value) [])
        | value => value)) []

/-- The document of the standard configuration. -/
def standardTable : Table := sorted ({} : Config).toTable

/-- The document of a file: the standard one if there is no file. -/
def document (file : Option (List UInt8)) : Except EditError Table :=
  match file with
  | none => .ok standardTable
  | some bytes =>
      match Text.Utf8.decodeString? bytes with
      | none => .error .unreadable
      | some text =>
          match Table.parse? text with
          | some table => .ok table
          | none => .error .noDocument

/-- The group and the key that a name consists of. -/
def splitKey (name : String) : Except EditError (String × String) :=
  match Text.splitFirst '.' name.toList with
  | some (group, key) => .ok (String.ofList group, String.ofList key)
  | none => .error (.noGroup name)

/-- A text read as a value of the kind of another value. -/
def valueLike (name raw : String) : Value → Except EditError Value
  | .boolean _ => .ok (.boolean (isTruthy raw))
  | .integer _ =>
      match Number.parseInt64? raw with
      | some n => .ok (.integer n)
      | none => .error (.noInteger name raw)
  | .float _ =>
      match Number.Binary64.parse? raw with
      | some x => .ok (.float x)
      | none => .error (.noNumber name raw)
  | _ => .ok (.string raw)

/-- The entries of the group with a given name; a missing group is empty. -/
def groupEntries (table : Table) (group : String) : Except EditError Table :=
  match table.get? group with
  | none => .ok []
  | some (.table entries) => .ok entries
  | some _ => .error (.noTable group)

/-- The document after a setting got the value of a text, which is not checked against the
configuration yet. -/
def assign (table : Table) (name raw : String) : Except EditError Table := do
  let (group, key) ← splitKey name
  match (Value.table standardTable).at? [group, key] with
  | none => throw (.unknownKey name)
  | some standard =>
      let entries ← groupEntries table group
      let value ← valueLike name raw ((entries.get? key).getD standard)
      return table.insert group (.table (entries.insert key value))

/-- The document after a setting got the value of a text. -/
def edit (table : Table) (name raw : String) : Except EditError Table := do
  let changed ← assign table name raw
  match ofTable? changed with
  | some _ => return changed
  | none => throw (.misfit name raw)

/-- The text of a file after a setting got the value of a text. -/
def editFile (file : Option (List UInt8)) (name raw : String) : Except EditError String := do
  let table ← document file
  return (← edit table name raw).text

end Config
end TailView
