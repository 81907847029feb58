import TailView.Config.Schema
import TailView.Text.Utf8
import TailView.Toml.Document
import TailView.Toml.Merge

/-!
# Layers of configuration

Files are laid over each other, the one of a project over the one of the user; each setting comes
from the topmost layer that names it.  Over the files lie the variables of the environment, and over
those the options of the command.  A file that is no document or does not fit is left out as a
whole, and spoils no other layer.
-/

namespace TailView
namespace Config

open Toml

/-- The document of a file, if it can be a layer of the configuration. -/
def layer? (bytes : List UInt8) : Option Table := do
  let text ← Text.Utf8.decodeString? bytes
  let table ← Table.parse? text
  let _ ← ofTable? table
  return table

/-- The configuration of some files, the lowest layer first. -/
def ofFiles (files : List (List UInt8)) : Config :=
  (ofTable? (Table.mergeAll (files.filterMap layer?))).getD {}

/-- The value of a variable of the environment, if it is set. -/
abbrev Environment := String → Option String

/-- Whether a text means yes. -/
def isTruthy (text : String) : Bool :=
  String.ofList (text.toList.map Char.toLower) ∈ ["1", "true", "yes", "on"]

/-- The rule that a text names, in one of several spellings and in any case. -/
def sectionRule? (text : String) : Option SectionRule :=
  match String.ofList (text.toList.map Char.toLower) with
  | "error-only" => some .errorOnly
  | "error_only" => some .errorOnly
  | "error" => some .errorOnly
  | "multi-level" => some .multiLevel
  | "multi_level" => some .multiLevel
  | "multi" => some .multiLevel
  | _ => none

/-- The value of a variable that is set to something. -/
def Environment.nonEmpty? (environment : Environment) (name : String) : Option String :=
  (environment name).filter (· ≠ "")

/-- The amount that the environment gives. -/
def Environment.amount? (environment : Environment) : Option Amount := do
  let text ← environment "LOGTAIL_AMOUNT"
  (Amount.parse text).toOption

/-- A configuration with the variables of the environment laid over it. -/
def withEnvironment (config : Config) (environment : Environment) : Config :=
  let amount := environment.amount?.getD config.amount
  { config with
    connection := { config.connection with
      url := (environment.nonEmpty? "LOGTAIL_URL").getD config.connection.url }
    tail := { config.tail with
      file := (environment.nonEmpty? "LOGTAIL_FILE").getD config.tail.file
      value := amount.value
      unit := amount.unit
      follow := ((environment "LOGTAIL_FOLLOW").map isTruthy).getD config.tail.follow
      sectionRule :=
        ((environment "LOGTAIL_CLASSIFIER").bind sectionRule?).getD config.tail.sectionRule }
    log := { config.log with
      level := (environment.nonEmpty? "LOGTAIL_LOG").getD config.log.level } }

/-- The configuration of some files, the lowest layer first, and the environment. -/
def load (files : List (List UInt8)) (environment : Environment) : Config :=
  (ofFiles files).withEnvironment environment

/-- What a command sets for one run. -/
structure Overrides where
  url : Option String := none
  file : Option String := none
  amount : Option Amount := none
  follow : Option Bool := none
deriving DecidableEq

/-- A configuration with the settings of a command laid over it. -/
def withOverrides (config : Config) (overrides : Overrides) : Config :=
  let amount := overrides.amount.getD config.amount
  { config with
    connection := { config.connection with url := overrides.url.getD config.connection.url }
    tail := { config.tail with
      file := overrides.file.getD config.tail.file
      value := amount.value
      unit := amount.unit
      follow := overrides.follow.getD config.tail.follow } }

end Config
end TailView
