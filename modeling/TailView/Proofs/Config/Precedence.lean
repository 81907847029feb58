import Mathlib.Data.List.Induction
import TailView.Proofs.Config.Keys

/-!
# The topmost layer decides

Files, the environment and the options of the command lie over each other.  Each setting comes from
the topmost layer that has one for it, whatever the layers say about other settings; a file that
cannot be used has none.  Files that can be used also fit together.
-/

namespace TailView
namespace Config

open Toml

/-! ## The layers -/

/-- A document in which groups are tables and settings are not. -/
structure Flat (table : Table) : Prop where
  /-- Groups are tables. -/
  grouped : Grouped table
  /-- Settings are no tables. -/
  plain : ∀ (key : Key) (value : Value), (Value.table table).at? key.path = some value →
    value.isTable = false

/-- Whether groups are tables and settings are not can be checked key by key. -/
theorem flat_iff (table : Table) :
    Flat table ↔ ∀ key ∈ Key.all, (Entries.get? table key.group).all Value.isTable ∧
      ((Value.table table).at? key.path).all fun value => !value.isTable := by
  simp only [Option.all_eq_true, Bool.not_eq_true']
  constructor
  · intro flat key _
    exact ⟨flat.grouped key, flat.plain key⟩
  · intro checked
    exact ⟨fun key => (checked key key.mem_all).1, fun key => (checked key key.mem_all).2⟩

instance (table : Table) : Decidable (Flat table) := decidable_of_iff _ (flat_iff table).symm

/-- The variable of the environment for a key. -/
def Key.variableName? : Key → Option String
  | .url => some "LOGTAIL_URL"
  | .file => some "LOGTAIL_FILE"
  | .value | .unit => some "LOGTAIL_AMOUNT"
  | .follow => some "LOGTAIL_FOLLOW"
  | .sectionRule => some "LOGTAIL_CLASSIFIER"
  | .level => some "LOGTAIL_LOG"
  | _ => none

/-- The setting that the text of a variable gives, if it can be used. -/
def Key.ofVariable? : (key : Key) → String → Option key.kind.Carrier
  | .url, text => if text = "" then none else some text
  | .file, text => if text = "" then none else some text
  | .value, text => (Amount.parse text).toOption.map (·.value)
  | .unit, text => (Amount.parse text).toOption.map (·.unit)
  | .follow, text => some (isTruthy text)
  | .sectionRule, text => sectionRule? text
  | .level, text => if text = "" then none else some text
  | _, _ => none

/-- What the environment sets a key to. -/
def Environment.given? (environment : Environment) (key : Key) : Option key.kind.Carrier :=
  (key.variableName?.bind environment).bind key.ofVariable?

/-- What the options of a command set a key to. -/
def Overrides.given? (overrides : Overrides) : (key : Key) → Option key.kind.Carrier
  | .url => overrides.url
  | .file => overrides.file
  | .value => overrides.amount.map (·.value)
  | .unit => overrides.amount.map (·.unit)
  | .follow => overrides.follow
  | _ => none

/-- The environment lies over a configuration. -/
theorem get_withEnvironment (config : Config) (environment : Environment) (key : Key) :
    key.get (config.withEnvironment environment) =
      (environment.given? key).getD (key.get config) := by
  have nonEmpty : ∀ (name standard : String),
      (environment.nonEmpty? name).getD standard =
        ((environment name).bind fun text => if text = "" then none else some text).getD
          standard := by
    intro name standard
    rw [Environment.nonEmpty?]
    cases environment name with
    | none => rfl
    | some text => by_cases empty : text = "" <;> simp [Option.filter, empty]
  cases key with
  | url | file | level => exact nonEmpty _ _
  | value | unit =>
      simp only [Key.get, withEnvironment, Environment.given?, Environment.amount?,
        Key.variableName?, Option.bind_some]
      cases environment "LOGTAIL_AMOUNT" with
      | none => rfl
      | some text =>
          simp only [Option.bind_eq_bind, Option.bind_some, Key.ofVariable?]
          cases (Amount.parse text).toOption <;> rfl
  | follow =>
      simp only [Key.get, withEnvironment, Environment.given?, Key.variableName?, Option.bind_some]
      cases environment "LOGTAIL_FOLLOW" <;> rfl
  | sectionRule =>
      simp only [Key.get, withEnvironment, Environment.given?, Key.variableName?, Option.bind_some]
      cases environment "LOGTAIL_CLASSIFIER" <;> rfl
  | _ => rfl

/-- The options of a command lie over a configuration. -/
theorem get_withOverrides (config : Config) (overrides : Overrides) (key : Key) :
    key.get (config.withOverrides overrides) = (overrides.given? key).getD (key.get config) := by
  cases key with
  | value | unit =>
      simp only [Key.get, withOverrides, Overrides.given?]
      cases overrides.amount <;> rfl
  | _ => rfl

/-! ## Files over each other -/

/-- What is found first is looked at further, if that never fails. -/
theorem findSome?_bind
    {α β γ : Type}
    {find : α → Option β}
    {look : β → Option γ}
    (list : List α)
    (succeeds : ∀ item ∈ list, ∀ found, find item = some found → (look found).isSome) :
    (list.findSome? find).bind look = list.findSome? fun item => (find item).bind look := by
  induction list with
  | nil => rfl
  | cons item rest inductionHypothesis =>
      rw [List.forall_mem_cons] at succeeds
      rw [List.findSome?_cons, List.findSome?_cons, ← inductionHypothesis succeeds.2]
      cases here : find item with
      | none => rfl
      | some found =>
          obtain ⟨seen, looked⟩ := Option.isSome_iff_exists.mp (succeeds.1 found here)
          simp only [Option.bind_some, looked]

/-- In merged documents every key has the value of the topmost one that mentions it. -/
theorem at?_mergeAll
    {layers : List Table}
    (sorted : ∀ layer ∈ layers, (Value.table layer).Sorted)
    (flat : ∀ layer ∈ layers, Flat layer) :
    Grouped (Table.mergeAll layers) ∧
      ∀ key : Key, (Value.table (Table.mergeAll layers)).at? key.path =
        layers.reverse.findSome? fun layer => (Value.table layer).at? key.path := by
  induction layers using List.reverseRecOn with
  | nil => exact ⟨fun _ => nofun, fun _ => rfl⟩
  | append_singleton below top inductionHypothesis =>
      rw [List.forall_mem_append, List.forall_mem_singleton] at sorted flat
      obtain ⟨grouped, found⟩ := inductionHypothesis sorted.1 flat.1
      have topmost : Table.mergeAll (below ++ [top]) = (Table.mergeAll below).merge top := by
        rw [Table.mergeAll, List.foldl_append]
        rfl
      rw [topmost]
      refine ⟨fun key => ?_, fun key => ?_⟩
      · cases sorted.2 with
        | table keys _ => exact (grouped key).merge (flat.2.grouped key) keys.nodup_keys
      · rw [Key.path, Value.at?_merge _ sorted.2 (flat.2.grouped key) (flat.2.plain key),
          ← Key.path, found key, List.reverse_append, List.reverse_singleton,
          List.singleton_append, List.findSome?_cons]
        cases (Value.table top).at? key.path <;> rfl

/-- A file that can be a layer is a document in order that is a configuration. -/
theorem layer?_eq_some {bytes : List UInt8} {table : Table} (found : layer? bytes = some table) :
    (Value.table table).Sorted ∧ ∃ config, ofTable? table = some config := by
  obtain ⟨text, _, read⟩ := Option.bind_eq_some_iff.mp found
  obtain ⟨other, parsed, fits⟩ := Option.bind_eq_some_iff.mp read
  obtain ⟨config, isConfig, same⟩ := Option.bind_eq_some_iff.mp fits
  cases same
  exact ⟨sorted_parse? parsed, config, isConfig⟩

/-- The configuration of some files has every setting from the topmost file that has one. -/
theorem get_ofFiles
    {files : List (List UInt8)}
    (flat : ∀ bytes ∈ files, ∀ table, layer? bytes = some table → Flat table) :
    (ofTable? (Table.mergeAll (files.filterMap layer?))).isSome ∧
      ∀ key : Key, key.get (ofFiles files) =
        (files.reverse.findSome? fun bytes => (layer? bytes).bind key.given?).getD
          (key.get {}) := by
  have usable : ∀ layer ∈ files.filterMap layer?, (Value.table layer).Sorted ∧ Flat layer ∧
      ∃ config, ofTable? layer = some config := by
    intro layer member
    obtain ⟨bytes, bytesMember, read⟩ := List.mem_filterMap.mp member
    obtain ⟨sorted, fits⟩ := layer?_eq_some read
    exact ⟨sorted, flat bytes bytesMember layer read, fits⟩
  obtain ⟨grouped, found⟩ := at?_mergeAll (fun layer member => (usable layer member).1)
    (fun layer member => (usable layer member).2.1)
  -- whatever a layer mentions fits, so what the merged document mentions fits as well
  have fitting : ∀ (key : Key), ∀ layer ∈ (files.filterMap layer?).reverse, ∀ value,
      (Value.table layer).at? key.path = some value →
        (Setting.ofValue? value : Option key.kind.Carrier).isSome := by
    intro key layer member value mentioned
    obtain ⟨_, layerFlat, config, fits⟩ := usable layer (List.mem_reverse.mp member)
    have given := (get_of_ofTable? layerFlat.grouped fits key).1
    rw [Key.given?, mentioned] at given
    exact given
  have given : ∀ key : Key, key.given? (Table.mergeAll (files.filterMap layer?)) =
      files.reverse.findSome? fun bytes => (layer? bytes).bind key.given? := by
    intro key
    rw [Key.given?, found key, findSome?_bind _ (fitting key), ← List.filterMap_reverse,
      ← List.head?_filterMap, List.filterMap_filterMap, List.head?_filterMap]
    rfl
  have fits : ∃ config, ofTable? (Table.mergeAll (files.filterMap layer?)) = some config := by
    apply ofTable?_of_forall_isSome grouped
    intro key
    cases mentioned : (Value.table (Table.mergeAll (files.filterMap layer?))).at? key.path with
    | none =>
        rw [Key.setting?_of_none mentioned]
        rfl
    | some value =>
        rw [Key.setting?_of_some mentioned]
        rw [found key] at mentioned
        obtain ⟨layer, member, here⟩ := List.exists_of_findSome?_eq_some mentioned
        exact fitting key layer member value here
  obtain ⟨config, merged⟩ := fits
  refine ⟨by rw [merged]; rfl, fun key => ?_⟩
  rw [ofFiles, merged, Option.getD_some, ← given key]
  exact (get_of_ofTable? grouped merged key).2

/-- A file that cannot be used is no layer. -/
theorem filterMap_toList_of_bind_eq_none
    {file : Option (List UInt8)}
    (unusable : file.bind layer? = none) :
    file.toList.filterMap layer? = [] := by
  cases file with
  | none => rfl
  | some bytes =>
      rw [Option.bind_some] at unusable
      rw [Option.toList_some, List.filterMap_cons_none unusable, List.filterMap_nil]

/-- Of two files that may be missing the upper one is asked first. -/
theorem findSome?_reverse_toList_append
    {α β : Type}
    (find : α → Option β)
    (lower upper : Option α) :
    (lower.toList ++ upper.toList).reverse.findSome? find =
      (upper.bind find).or (lower.bind find) := by
  rw [List.reverse_append, List.findSome?_append]
  cases lower <;> cases upper <;> simp [List.findSome?_singleton]

/-- Each setting has the value of the topmost layer that has one: the options of the command, the
environment, the file of the project, the file of the user, and below all the standard value.  A
file has a setting for each key that it mentions.  Files that can be used fit together, and one that
cannot be used does not matter. -/
theorem get_load
    (user project : Option (List UInt8))
    (environment : Environment)
    (overrides : Overrides)
    (flat : ∀ bytes ∈ user.toList ++ project.toList, ∀ table, layer? bytes = some table →
      Flat table) :
    let files := user.toList ++ project.toList
    (∀ key : Key, key.get ((load files environment).withOverrides overrides) =
      ((overrides.given? key).or <| (environment.given? key).or <|
        ((project.bind layer?).bind key.given?).or <|
        (user.bind layer?).bind key.given?).getD (key.get {})) ∧
      (∀ bytes ∈ files, ∀ table, layer? bytes = some table → ∀ key : Key,
        (key.given? table).isSome = ((Value.table table).at? key.path).isSome) ∧
      (ofTable? (Table.mergeAll (files.filterMap layer?))).isSome ∧
      (user.bind layer? = none → load files environment = load project.toList environment) ∧
      (project.bind layer? = none → load files environment = load user.toList environment) := by
  intro files
  obtain ⟨fits, fromFiles⟩ := get_ofFiles flat
  refine ⟨?_, ?_, fits, ?_, ?_⟩
  · intro key
    rw [get_withOverrides, load, get_withEnvironment, fromFiles key]
    cases overrides.given? key with
    | some setting => rfl
    | none =>
        cases environment.given? key with
        | some setting => rfl
        | none =>
            rw [findSome?_reverse_toList_append, Option.bind_assoc, Option.bind_assoc]
            rfl
  · intro bytes member table read key
    obtain ⟨config, fits⟩ := (layer?_eq_some read).2
    exact (get_of_ofTable? (flat bytes member table read).grouped fits key).1
  · intro unusable
    rw [load, load, ofFiles, ofFiles, List.filterMap_append,
      filterMap_toList_of_bind_eq_none unusable, List.nil_append]
  · intro unusable
    rw [load, load, ofFiles, ofFiles, List.filterMap_append,
      filterMap_toList_of_bind_eq_none unusable, List.append_nil]

/-- A file of the user. -/
def userFile : List UInt8 :=
  Text.Utf8.encodeString
    "[connection]\nurl = \"ws://log/tail\"\n\n[tail]\nfile = \"a.log\"\nfollow = false\n"

/-- A file of a project. -/
def projectFile : List UInt8 :=
  Text.Utf8.encodeString "[tail]\nfile = \"b.log\"\namount = 2\n"

/-- The files set different keys of one group, and the environment lies over both. -/
theorem get_load_userFile_projectFile :
    let environment : Environment := fun name =>
      if name = "LOGTAIL_FOLLOW" then some "yes" else none
    let config := (load [userFile, projectFile] environment).withOverrides {}
    (∀ bytes ∈ [userFile, projectFile], ∀ table, layer? bytes = some table → Flat table) ∧
      Key.url.get config = "ws://log/tail" ∧ Key.file.get config = "b.log" ∧
      Key.value.get config = .ofInt 2 ∧ Key.follow.get config = true := by
  intro environment config
  have readUser : layer? userFile =
      some [("connection", .table [("url", .string "ws://log/tail")]),
        ("tail", .table [("file", .string "a.log"), ("follow", .boolean false)])] := by
    decide +kernel
  have readProject : layer? projectFile =
      some [("tail", .table [("amount", .integer 2), ("file", .string "b.log")])] := by
    decide +kernel
  have flat : ∀ bytes ∈ [userFile, projectFile], ∀ table, layer? bytes = some table →
      Flat table := by
    intro bytes member table read
    rcases List.mem_pair.mp member with same | same
    · rw [same, readUser] at read
      cases read
      decide
    · rw [same, readProject] at read
      cases read
      decide
  have settings := (get_load (some userFile) (some projectFile) environment {} flat).1
  rw [Option.bind_some, Option.bind_some, readUser, readProject] at settings
  refine ⟨flat, ?_, ?_, ?_, ?_⟩
  · exact settings .url
  · exact settings .file
  · exact (settings .value).trans (by decide +kernel)
  · exact settings .follow

end Config
end TailView
