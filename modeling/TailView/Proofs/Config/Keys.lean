import TailView.Config.Layers
import TailView.Proofs.Toml.Merge

/-!
# The keys of the configuration

Every setting has a place in the configuration and one in documents: a key in the table of a group.
A document with such tables is a configuration exactly if each setting fits by itself, and then the
configuration has these settings.  So whatever is said of documents can be said key by key.
-/

namespace TailView
namespace Config

open Toml

/-- What a setting can be. -/
inductive Kind
  | text
  | truth
  | count
  | number
  | unit
  | rule
  | mode
deriving DecidableEq, Repr

/-- The settings of a kind. -/
@[reducible] def Kind.Carrier : Kind → Type
  | .text => String
  | .truth => Bool
  | .count => Nat
  | .number => Number.Binary64
  | .unit => SizeUnit
  | .rule => SectionRule
  | .mode => Filter.Mode

instance (kind : Kind) : Setting kind.Carrier :=
  match kind with
  | .text => inferInstanceAs (Setting String)
  | .truth => inferInstanceAs (Setting Bool)
  | .count => inferInstanceAs (Setting Nat)
  | .number => inferInstanceAs (Setting Number.Binary64)
  | .unit => inferInstanceAs (Setting SizeUnit)
  | .rule => inferInstanceAs (Setting SectionRule)
  | .mode => inferInstanceAs (Setting Filter.Mode)

instance (kind : Kind) : DecidableEq kind.Carrier :=
  match kind with
  | .text => inferInstanceAs (DecidableEq String)
  | .truth => inferInstanceAs (DecidableEq Bool)
  | .count => inferInstanceAs (DecidableEq Nat)
  | .number => inferInstanceAs (DecidableEq Number.Binary64)
  | .unit => inferInstanceAs (DecidableEq SizeUnit)
  | .rule => inferInstanceAs (DecidableEq SectionRule)
  | .mode => inferInstanceAs (DecidableEq Filter.Mode)

/-- One thing that can be configured. -/
inductive Key
  | url
  | heartbeat
  | reconnect
  | ceiling
  | file
  | value
  | unit
  | follow
  | bytesPerLine
  | sectionRule
  | mode
  | caseless
  | debounce
  | colors
  | correlation
  | level
  | logFile
deriving DecidableEq, Repr

namespace Key

/-- All keys. -/
def all : List Key :=
  [.url, .heartbeat, .reconnect, .ceiling, .file, .value, .unit, .follow, .bytesPerLine,
    .sectionRule, .mode, .caseless, .debounce, .colors, .correlation, .level, .logFile]

theorem mem_all (key : Key) : key ∈ all := by
  cases key <;> decide

/-- What the setting under a key can be. -/
@[reducible] def kind : Key → Kind
  | .url | .file | .level | .logFile => .text
  | .heartbeat | .reconnect | .ceiling | .bytesPerLine | .debounce => .count
  | .follow | .caseless | .colors | .correlation => .truth
  | .value => .number
  | .unit => .unit
  | .sectionRule => .rule
  | .mode => .mode

/-- The name of the group that a key belongs to. -/
def group : Key → String
  | .url | .heartbeat | .reconnect | .ceiling => "connection"
  | .file | .value | .unit | .follow | .bytesPerLine | .sectionRule => "tail"
  | .mode | .caseless | .debounce => "filter"
  | .colors | .correlation => "render"
  | .level | .logFile => "logging"

/-- The name of a key inside its group. -/
def name : Key → String
  | .url => "url"
  | .heartbeat => "heartbeat_interval_ms"
  | .reconnect => "reconnect_delay_ms"
  | .ceiling => "max_reconnect_delay_ms"
  | .file => "file"
  | .value => "amount"
  | .unit => "unit"
  | .follow => "follow"
  | .bytesPerLine => "bytes_per_line"
  | .sectionRule => "classifier"
  | .mode => "mode"
  | .caseless => "case_insensitive"
  | .debounce => "debounce_ms"
  | .colors => "color"
  | .correlation => "show_correlation"
  | .level => "level"
  | .logFile => "file"

/-- The path of keys that leads to a setting in a document. -/
def path (key : Key) : List String := [key.group, key.name]

/-- The setting under a key. -/
def get : (key : Key) → Config → key.kind.Carrier
  | .url, config => config.connection.url
  | .heartbeat, config => config.connection.heartbeat
  | .reconnect, config => config.connection.reconnect
  | .ceiling, config => config.connection.ceiling
  | .file, config => config.tail.file
  | .value, config => config.tail.value
  | .unit, config => config.tail.unit
  | .follow, config => config.tail.follow
  | .bytesPerLine, config => config.tail.bytesPerLine
  | .sectionRule, config => config.tail.sectionRule
  | .mode, config => config.filter.mode
  | .caseless, config => config.filter.caseless
  | .debounce, config => config.filter.debounce
  | .colors, config => config.display.colors
  | .correlation, config => config.display.correlation
  | .level, config => config.log.level
  | .logFile, config => config.log.file

end Key

/-- The configuration with given settings. -/
def ofSettings (setting : (key : Key) → key.kind.Carrier) : Config where
  connection := {
    url := setting .url
    heartbeat := setting .heartbeat
    reconnect := setting .reconnect
    ceiling := setting .ceiling }
  tail := {
    file := setting .file
    value := setting .value
    unit := setting .unit
    follow := setting .follow
    bytesPerLine := setting .bytesPerLine
    sectionRule := setting .sectionRule }
  filter := {
    mode := setting .mode
    caseless := setting .caseless
    debounce := setting .debounce }
  display := {
    colors := setting .colors
    correlation := setting .correlation }
  log := {
    level := setting .level
    file := setting .logFile }

namespace Key

variable {key other : Key} {config : Config} {table inner : Table} {value : Value}

@[simp] theorem get_ofSettings (setting : (key : Key) → key.kind.Carrier) (key : Key) :
    key.get (ofSettings setting) = setting key := by
  cases key <;> rfl

/-- Every configuration has its settings and nothing else. -/
theorem ofSettings_get (config : Config) : (ofSettings fun key => key.get config) = config :=
  rfl

/-- The configuration with the setting under a key replaced. -/
def set (key : Key) (setting : key.kind.Carrier) (config : Config) : Config :=
  ofSettings fun other => if same : other = key then same ▸ setting else other.get config

@[simp] theorem get_set_self (key : Key) (setting : key.kind.Carrier) (config : Config) :
    key.get (key.set setting config) = setting := by
  rw [set, get_ofSettings, dif_pos rfl]

theorem get_set_of_ne (different : other ≠ key) (setting : key.kind.Carrier) (config : Config) :
    other.get (key.set setting config) = other.get config := by
  rw [set, get_ofSettings, dif_neg different]

/-- Configurations with the same settings are the same. -/
theorem eq_of_forall_get_eq {other : Config} (same : ∀ key : Key, key.get config = key.get other) :
    config = other := by
  rw [← ofSettings_get config, ← ofSettings_get other]
  exact congrArg ofSettings (funext same)

/-- Different keys stand in different places. -/
theorem eq_of_path_eq (same : other.path = key.path) : other = key := by
  cases other <;> cases key <;> first | rfl | simp [path, group, name] at same

/-! ## Documents key by key -/

/-- What a document sets a key to. -/
def given? (key : Key) (table : Table) : Option key.kind.Carrier :=
  ((Value.table table).at? key.path).bind Setting.ofValue?

/-- The setting that a document has under a key: the standard one if the document does not mention
the key, and none at all if it has something there that does not fit. -/
def setting? (key : Key) (table : Table) : Option key.kind.Carrier :=
  match (Value.table table).at? key.path with
  | none => some (key.get {})
  | some value => Setting.ofValue? value

theorem setting?_of_none (absent : (Value.table table).at? key.path = none) :
    key.setting? table = some (key.get {}) := by
  rw [setting?, absent]

theorem setting?_of_some (found : (Value.table table).at? key.path = some value) :
    key.setting? table = Setting.ofValue? value := by
  rw [setting?, found]

theorem setting?_of_no_group (absent : Entries.get? table key.group = none) :
    key.setting? table = some (key.get {}) :=
  setting?_of_none (Value.at?_pair_of_none absent)

/-- Inside the table of its group a key is read as a setting of the group. -/
theorem setting?_of_group
    (found : Entries.get? table key.group = some (.table inner))
    (position : Nat) :
    key.setting? table = (Group.keyed inner).setting? position key.name (key.get {}) := by
  rw [setting?, path, Value.at?_pair_of_table found]
  rfl

end Key

/-- Whatever a document has in the place of a group is a table. -/
def Grouped (table : Table) : Prop := ∀ key : Key, Value.HoldsTable table key.group

section Groups

variable {table : Table}

/-- A group that is a table or missing is read like a table, as is each of its keys: a missing one
like the table without entries. -/
theorem exists_groupTable
    {α : Type}
    [Setting α]
    {name : String}
    (holds : Value.HoldsTable table name)
    (standard : α)
    (ofEmpty : Setting.ofValue? (.table []) = some standard)
    (position : Nat) :
    ∃ inner : Table,
      (Group.keyed table).setting? position name standard = Setting.ofValue? (.table inner) ∧
      ∀ key : Key, key.group = name → ∀ position,
        key.setting? table = (Group.keyed inner).setting? position key.name (key.get {}) := by
  rcases holds.cases with absent | ⟨inner, found⟩
  · refine ⟨[], ?_, fun key inGroup _ => ?_⟩
    · rw [Group.setting?, Group.value?, absent, ofEmpty]
    · rw [Key.setting?_of_no_group (inGroup ▸ absent)]
      rfl
  · refine ⟨inner, ?_, fun key inGroup position => ?_⟩
    · rw [Group.setting?, Group.value?, found]
    · exact Key.setting?_of_group (inGroup ▸ found) position

/-! A group that is read from its table has the settings that are read key by key. -/

theorem connection_eq_some_iff
    (holds : Value.HoldsTable table "connection")
    (settings : ConnectionSettings) :
    (Group.keyed table).setting? 0 "connection" ({} : ConnectionSettings) = some settings ↔
      Key.url.setting? table = some settings.url ∧
      Key.heartbeat.setting? table = some settings.heartbeat ∧
      Key.reconnect.setting? table = some settings.reconnect ∧
      Key.ceiling.setting? table = some settings.ceiling := by
  obtain ⟨inner, group, keys⟩ := exists_groupTable holds ({} : ConnectionSettings) rfl 0
  rw [group, keys .url rfl 0, keys .heartbeat rfl 1, keys .reconnect rfl 2, keys .ceiling rfl 3]
  simp only [Setting.ofValue?, Group.ofValue?, Option.bind_eq_bind, Option.bind_some,
    Option.bind_eq_some_iff, Option.pure_def, Option.some.injEq, Key.name, Key.get]
  constructor
  · rintro ⟨_, urlFits, _, heartbeatFits, _, reconnectFits, _, ceilingFits, rfl⟩
    exact ⟨urlFits, heartbeatFits, reconnectFits, ceilingFits⟩
  · rintro ⟨urlFits, heartbeatFits, reconnectFits, ceilingFits⟩
    exact ⟨_, urlFits, _, heartbeatFits, _, reconnectFits, _, ceilingFits, rfl⟩

theorem tail_eq_some_iff
    (holds : Value.HoldsTable table "tail")
    (settings : TailSettings) :
    (Group.keyed table).setting? 1 "tail" ({} : TailSettings) = some settings ↔
      Key.file.setting? table = some settings.file ∧
      Key.value.setting? table = some settings.value ∧
      Key.unit.setting? table = some settings.unit ∧
      Key.follow.setting? table = some settings.follow ∧
      Key.bytesPerLine.setting? table = some settings.bytesPerLine ∧
      Key.sectionRule.setting? table = some settings.sectionRule := by
  obtain ⟨inner, group, keys⟩ := exists_groupTable holds ({} : TailSettings) (by decide +kernel) 1
  rw [group, keys .file rfl 0, keys .value rfl 1, keys .unit rfl 2, keys .follow rfl 3,
    keys .bytesPerLine rfl 4, keys .sectionRule rfl 5]
  simp only [Setting.ofValue?, Group.ofValue?, Option.bind_eq_bind, Option.bind_some,
    Option.bind_eq_some_iff, Option.pure_def, Option.some.injEq, Key.name, Key.get]
  constructor
  · rintro ⟨_, fileFits, _, valueFits, _, unitFits, _, followFits, _, bytesPerLineFits,
      _, sectionRuleFits, rfl⟩
    exact ⟨fileFits, valueFits, unitFits, followFits, bytesPerLineFits, sectionRuleFits⟩
  · rintro ⟨fileFits, valueFits, unitFits, followFits, bytesPerLineFits, sectionRuleFits⟩
    exact ⟨_, fileFits, _, valueFits, _, unitFits, _, followFits, _, bytesPerLineFits,
      _, sectionRuleFits, rfl⟩

theorem filter_eq_some_iff
    (holds : Value.HoldsTable table "filter")
    (settings : FilterSettings) :
    (Group.keyed table).setting? 2 "filter" ({} : FilterSettings) = some settings ↔
      Key.mode.setting? table = some settings.mode ∧
      Key.caseless.setting? table = some settings.caseless ∧
      Key.debounce.setting? table = some settings.debounce := by
  obtain ⟨inner, group, keys⟩ := exists_groupTable holds ({} : FilterSettings) rfl 2
  rw [group, keys .mode rfl 0, keys .caseless rfl 1, keys .debounce rfl 2]
  simp only [Setting.ofValue?, Group.ofValue?, Option.bind_eq_bind, Option.bind_some,
    Option.bind_eq_some_iff, Option.pure_def, Option.some.injEq, Key.name, Key.get]
  constructor
  · rintro ⟨_, modeFits, _, caselessFits, _, debounceFits, rfl⟩
    exact ⟨modeFits, caselessFits, debounceFits⟩
  · rintro ⟨modeFits, caselessFits, debounceFits⟩
    exact ⟨_, modeFits, _, caselessFits, _, debounceFits, rfl⟩

theorem display_eq_some_iff
    (holds : Value.HoldsTable table "render")
    (settings : DisplaySettings) :
    (Group.keyed table).setting? 3 "render" ({} : DisplaySettings) = some settings ↔
      Key.colors.setting? table = some settings.colors ∧
      Key.correlation.setting? table = some settings.correlation := by
  obtain ⟨inner, group, keys⟩ := exists_groupTable holds ({} : DisplaySettings) rfl 3
  rw [group, keys .colors rfl 0, keys .correlation rfl 1]
  simp only [Setting.ofValue?, Group.ofValue?, Option.bind_eq_bind, Option.bind_some,
    Option.bind_eq_some_iff, Option.pure_def, Option.some.injEq, Key.name, Key.get]
  constructor
  · rintro ⟨_, colorsFits, _, correlationFits, rfl⟩
    exact ⟨colorsFits, correlationFits⟩
  · rintro ⟨colorsFits, correlationFits⟩
    exact ⟨_, colorsFits, _, correlationFits, rfl⟩

theorem log_eq_some_iff
    (holds : Value.HoldsTable table "logging")
    (settings : LogSettings) :
    (Group.keyed table).setting? 4 "logging" ({} : LogSettings) = some settings ↔
      Key.level.setting? table = some settings.level ∧
      Key.logFile.setting? table = some settings.file := by
  obtain ⟨inner, group, keys⟩ := exists_groupTable holds ({} : LogSettings) rfl 4
  rw [group, keys .level rfl 0, keys .logFile rfl 1]
  simp only [Setting.ofValue?, Group.ofValue?, Option.bind_eq_bind, Option.bind_some,
    Option.bind_eq_some_iff, Option.pure_def, Option.some.injEq, Key.name, Key.get]
  constructor
  · rintro ⟨_, levelFits, _, fileFits, rfl⟩
    exact ⟨levelFits, fileFits⟩
  · rintro ⟨levelFits, fileFits⟩
    exact ⟨_, levelFits, _, fileFits, rfl⟩

end Groups

/-- A document is a configuration if every setting fits, and then it has these settings. -/
theorem ofTable?_eq_some_iff {table : Table} (grouped : Grouped table) (config : Config) :
    ofTable? table = some config ↔ ∀ key : Key, key.setting? table = some (key.get config) := by
  have connection := connection_eq_some_iff (grouped .url)
  have tail := tail_eq_some_iff (grouped .file)
  have filter := filter_eq_some_iff (grouped .mode)
  have display := display_eq_some_iff (grouped .colors)
  have log := log_eq_some_iff (grouped .level)
  simp only [ofTable?, Option.bind_eq_bind, Option.bind_eq_some_iff, Option.pure_def,
    Option.some.injEq]
  constructor
  · rintro ⟨_, connectionFits, _, tailFits, _, filterFits, _, displayFits, _, logFits, rfl⟩ key
    have connectionKeys := (connection _).mp connectionFits
    have tailKeys := (tail _).mp tailFits
    have filterKeys := (filter _).mp filterFits
    have displayKeys := (display _).mp displayFits
    have logKeys := (log _).mp logFits
    cases key with
    | url => exact connectionKeys.1
    | heartbeat => exact connectionKeys.2.1
    | reconnect => exact connectionKeys.2.2.1
    | ceiling => exact connectionKeys.2.2.2
    | file => exact tailKeys.1
    | value => exact tailKeys.2.1
    | unit => exact tailKeys.2.2.1
    | follow => exact tailKeys.2.2.2.1
    | bytesPerLine => exact tailKeys.2.2.2.2.1
    | sectionRule => exact tailKeys.2.2.2.2.2
    | mode => exact filterKeys.1
    | caseless => exact filterKeys.2.1
    | debounce => exact filterKeys.2.2
    | colors => exact displayKeys.1
    | correlation => exact displayKeys.2
    | level => exact logKeys.1
    | logFile => exact logKeys.2
  · intro fits
    exact ⟨_, (connection config.connection).mpr
        ⟨fits .url, fits .heartbeat, fits .reconnect, fits .ceiling⟩,
      _, (tail config.tail).mpr
        ⟨fits .file, fits .value, fits .unit, fits .follow, fits .bytesPerLine, fits .sectionRule⟩,
      _, (filter config.filter).mpr ⟨fits .mode, fits .caseless, fits .debounce⟩,
      _, (display config.display).mpr ⟨fits .colors, fits .correlation⟩,
      _, (log config.log).mpr ⟨fits .level, fits .logFile⟩, rfl⟩

/-- A document is a configuration as soon as every setting fits. -/
theorem ofTable?_of_forall_isSome
    {table : Table}
    (grouped : Grouped table)
    (fits : ∀ key : Key, (key.setting? table).isSome) :
    ∃ config, ofTable? table = some config := by
  refine ⟨ofSettings fun key => (key.setting? table).get (fits key), ?_⟩
  rw [ofTable?_eq_some_iff grouped]
  intro key
  rw [Key.get_ofSettings, Option.some_get]

/-- In a document that is a configuration, a key is set exactly if it is mentioned, and a key that
is set has that setting. -/
theorem get_of_ofTable?
    {table : Table}
    {config : Config}
    (grouped : Grouped table)
    (fits : ofTable? table = some config)
    (key : Key) :
    (key.given? table).isSome = ((Value.table table).at? key.path).isSome ∧
      key.get config = (key.given? table).getD (key.get {}) := by
  have setting := (ofTable?_eq_some_iff grouped config).mp fits key
  cases found : (Value.table table).at? key.path with
  | none =>
      rw [Key.setting?_of_none found] at setting
      rw [Key.given?, found]
      exact ⟨rfl, (Option.some.inj setting).symm⟩
  | some value =>
      rw [Key.setting?_of_some found] at setting
      rw [Key.given?, found, Option.bind_some, setting]
      exact ⟨rfl, rfl⟩

end Config
end TailView
