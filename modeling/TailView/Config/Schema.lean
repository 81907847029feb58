import TailView.Config.Setting
import TailView.Session.Basic
import TailView.Toml.Printer

/-!
# The configuration

Everything that can be configured, in five groups.  Each setting has a standard value, so that a
document names only what differs from it.
-/

namespace TailView
namespace Config

open Toml

/-- How the server is reached.  Times are milliseconds. -/
structure ConnectionSettings where
  /-- The address of the server. -/
  url : String := "ws://localhost:8080/logviewer/tail"
  /-- The time between two messages that keep the connection alive. -/
  heartbeat : Nat := 10000
  /-- The delay before the first new attempt. -/
  reconnect : Nat := 3000
  /-- The ceiling of the delay. -/
  ceiling : Nat := 3000
deriving DecidableEq, Repr

/-- What is fetched, and how it is divided. -/
structure TailSettings where
  /-- The file to open at the start; none if empty. -/
  file : String := ""
  /-- How many units of the file to fetch. -/
  value : Number.Binary64 := Number.Binary64.one
  /-- The unit. -/
  unit : SizeUnit := .mb
  /-- Whether appended text is wanted. -/
  follow : Bool := true
  /-- The estimated length of a line. -/
  bytesPerLine : Nat := 100
  /-- Which markers open a section. -/
  sectionRule : SectionRule := .errorOnly
deriving DecidableEq

/-- How entries are filtered. -/
structure FilterSettings where
  /-- How filter texts are understood. -/
  mode : Filter.Mode := .regex
  /-- Whether case does not count. -/
  caseless : Bool := false
  /-- How many milliseconds typing has to pause before a filter text takes effect. -/
  debounce : Nat := 300
deriving DecidableEq, Repr

/-- How entries are shown. -/
structure DisplaySettings where
  /-- Whether colours may be used. -/
  colors : Bool := true
  /-- Whether to show where the counterparts of requests and answers are. -/
  correlation : Bool := true
deriving DecidableEq, Repr

/-- Where diagnostics go. -/
structure LogSettings where
  /-- Which diagnostics are wanted. -/
  level : String := "warn"
  /-- The file for diagnostics. -/
  file : String := "~/.logtail/logtail.log"
deriving DecidableEq, Repr

instance : Setting ConnectionSettings where
  ofValue? value := do
    let group ← Group.ofValue? 4 value
    let standard : ConnectionSettings := {}
    return {
      url := ← group.setting? 0 "url" standard.url
      heartbeat := ← group.setting? 1 "heartbeat_interval_ms" standard.heartbeat
      reconnect := ← group.setting? 2 "reconnect_delay_ms" standard.reconnect
      ceiling := ← group.setting? 3 "max_reconnect_delay_ms" standard.ceiling }
  toValue settings := .table [
    ("url", toValue settings.url),
    ("heartbeat_interval_ms", toValue settings.heartbeat),
    ("reconnect_delay_ms", toValue settings.reconnect),
    ("max_reconnect_delay_ms", toValue settings.ceiling)]

instance : Setting TailSettings where
  ofValue? value := do
    let group ← Group.ofValue? 6 value
    let standard : TailSettings := {}
    return {
      file := ← group.setting? 0 "file" standard.file
      value := ← group.setting? 1 "amount" standard.value
      unit := ← group.setting? 2 "unit" standard.unit
      follow := ← group.setting? 3 "follow" standard.follow
      bytesPerLine := ← group.setting? 4 "bytes_per_line" standard.bytesPerLine
      sectionRule := ← group.setting? 5 "classifier" standard.sectionRule }
  toValue settings := .table [
    ("file", toValue settings.file),
    ("amount", toValue settings.value),
    ("unit", toValue settings.unit),
    ("follow", toValue settings.follow),
    ("bytes_per_line", toValue settings.bytesPerLine),
    ("classifier", toValue settings.sectionRule)]

instance : Setting FilterSettings where
  ofValue? value := do
    let group ← Group.ofValue? 3 value
    let standard : FilterSettings := {}
    return {
      mode := ← group.setting? 0 "mode" standard.mode
      caseless := ← group.setting? 1 "case_insensitive" standard.caseless
      debounce := ← group.setting? 2 "debounce_ms" standard.debounce }
  toValue settings := .table [
    ("mode", toValue settings.mode),
    ("case_insensitive", toValue settings.caseless),
    ("debounce_ms", toValue settings.debounce)]

instance : Setting DisplaySettings where
  ofValue? value := do
    let group ← Group.ofValue? 2 value
    let standard : DisplaySettings := {}
    return {
      colors := ← group.setting? 0 "color" standard.colors
      correlation := ← group.setting? 1 "show_correlation" standard.correlation }
  toValue settings := .table [
    ("color", toValue settings.colors),
    ("show_correlation", toValue settings.correlation)]

instance : Setting LogSettings where
  ofValue? value := do
    let group ← Group.ofValue? 2 value
    let standard : LogSettings := {}
    return {
      level := ← group.setting? 0 "level" standard.level
      file := ← group.setting? 1 "file" standard.file }
  toValue settings := .table [
    ("level", toValue settings.level),
    ("file", toValue settings.file)]

end Config

/-- Everything that can be configured. -/
structure Config where
  connection : Config.ConnectionSettings := {}
  tail : Config.TailSettings := {}
  filter : Config.FilterSettings := {}
  display : Config.DisplaySettings := {}
  log : Config.LogSettings := {}
deriving DecidableEq

namespace Config

open Toml

/-- The configuration that a document gives, if all of its settings fit. -/
def ofTable? (table : Table) : Option Config := do
  let group := Group.keyed table
  let standard : Config := {}
  return {
    connection := ← group.setting? 0 "connection" standard.connection
    tail := ← group.setting? 1 "tail" standard.tail
    filter := ← group.setting? 2 "filter" standard.filter
    display := ← group.setting? 3 "render" standard.display
    log := ← group.setting? 4 "logging" standard.log }

/-- The document of a configuration, in the order of the groups. -/
def toTable (config : Config) : Table := [
  ("connection", toValue config.connection),
  ("tail", toValue config.tail),
  ("filter", toValue config.filter),
  ("render", toValue config.display),
  ("logging", toValue config.log)]

/-- The text of a configuration. -/
def text (config : Config) : String := config.toTable.text

/-- How much of the file to fetch. -/
def amount (config : Config) : Amount := ⟨config.tail.value, config.tail.unit⟩

/-- How a session is set up.  A line has at least one byte, and the connection is kept alive at most
once in a millisecond. -/
def sessionOptions (config : Config) : SessionOptions where
  sectionRule := config.tail.sectionRule
  filterMode := config.filter.mode
  caseless := config.filter.caseless
  debounce := config.filter.debounce
  bytesPerLine := max config.tail.bytesPerLine 1
  follow := config.tail.follow
  policy := {
    heartbeat := max config.connection.heartbeat 1
    reconnect := config.connection.reconnect
    ceiling := config.connection.ceiling }

end Config
end TailView
