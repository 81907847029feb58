import TailView.CommandLine.Run
import TailView.Proofs.Config.Edit
import TailView.Proofs.Config.Precedence
import TailView.Proofs.Toml.Equality
import TailView.Proofs.Utf8
import TailView.Storage.Memory

/-!
# Setting a value in a file of the configuration

The file is written only after every check has passed.  So a change that is refused leaves all as it
was, and after one that succeeds the file gives the old configuration with one new setting.
-/

namespace TailView

/-! ## Files on a disk -/

namespace Disk

variable {disk after : Disk} {place working : List String} {path : String} {node : FileNode}

theorem node?_put_self (notRoot : place ≠ []) : (disk.put place node).node? place = some node := by
  have isPlace : place.isEmpty = false := List.isEmpty_eq_false_iff.mpr notRoot
  rw [node?, put, isPlace, if_neg (by decide), List.find?_cons_of_pos (by simp)]
  rfl

theorem node?_put_of_ne {other : List String} (different : other ≠ place) :
    (disk.put place node).node? other = disk.node? other := by
  rw [node?, node?, put]
  split
  · rfl
  · rw [List.find?_cons_of_neg (by simpa using Ne.symm different), List.find?_filter]
    congr 2
    funext entry
    by_cases same : entry.1 = other
    · simp [same, different]
    · simp [same]

/-- Where no directory was, a new file is on no way. -/
theorem follow?_put
    {bytes : List UInt8}
    (noDirectory : disk.node? place ≠ some .directory)
    (start : List String)
    (parts : List String) :
    (disk.put place (.file bytes)).follow? start parts = disk.follow? start parts := by
  have notRoot : place ≠ [] := by
    rintro rfl
    exact noDirectory rfl
  induction parts generalizing start with
  | nil => rfl
  | cons part rest inductionHypothesis =>
      rw [follow?, follow?, inductionHypothesis]
      by_cases here : start = place
      · subst here
        rw [node?_put_self notRoot, if_neg (by simp), if_neg noDirectory]
      · rw [node?_put_of_ne here]

/-- A file that was changed has the new bytes. -/
theorem contents?_of_changeFile
    {change : Option (List UInt8) → List UInt8}
    (changed : disk.changeFile working path change = some after) :
    after.contents? working path = some (change (disk.contents? working path)) := by
  obtain ⟨place, reached, here⟩ := Option.bind_eq_some_iff.mp changed
  obtain ⟨allowed, put⟩ := Option.ite_none_left_eq_some.mp here
  have notRoot : place ≠ [] := by
    rintro rfl
    exact allowed (.inl rfl)
  have written : ∀ bytes, disk.node? place ≠ some .directory →
      (disk.put place (.file bytes)).contents? working path = some bytes := by
    intro bytes noDirectory
    have sameWay : (disk.put place (.file bytes)).place? working path = some place := by
      rw [place?] at reached ⊢
      rw [follow?_put noDirectory]
      exact reached
    rw [contents?, sameWay, Option.bind_some, node?_put_self notRoot]
  split at put
  next => cases put
  next bytes found =>
    cases put
    have old : disk.contents? working path = some bytes := by
      rw [contents?, reached, Option.bind_some, found]
    rw [written _ (by rw [found]; simp), old]
  next absent =>
    cases put
    have old : disk.contents? working path = none := by
      rw [contents?, reached, Option.bind_some, absent]
    rw [written _ (by rw [absent]; simp), old]

end Disk

namespace CommandLine

open Config Toml

/-! ## Runs on a computer in memory -/

/-- How a run on a computer in memory ends, and the computer after it. -/
def runOn {α : Type} (memory : Memory) (run : Run (StateM Memory) α) : Except RunError α × Memory :=
  StateT.run (ExceptT.run run) memory

section Steps

variable {α β : Type} (memory : Memory)

theorem runOn_bind (run : Run (StateM Memory) α) (next : α → Run (StateM Memory) β) :
    runOn memory (run >>= next) =
      match runOn memory run with
      | (.ok result, after) => runOn after (next result)
      | (.error error, after) => (.error error, after) := by
  rw [runOn, ExceptT.run_bind, StateT.run_bind]
  change (match StateT.run (ExceptT.run run) memory with | (result, after) => _) = _
  rw [runOn]
  rcases StateT.run (ExceptT.run run) memory with ⟨_ | _, after⟩ <;> rfl

theorem runOn_pure (result : α) :
    runOn memory (pure result : Run (StateM Memory) α) = (.ok result, memory) :=
  rfl

theorem runOn_lift (action : StateM Memory α) :
    runOn memory (liftM action : Run (StateM Memory) α) =
      ((.ok (action memory).1), (action memory).2) :=
  rfl

theorem runOn_require (done : Bool) (error : RunError) :
    runOn memory (require done error : Run (StateM Memory) Unit) =
      (if done then .ok () else .error error, memory) := by
  cases done <;> rfl

end Steps

variable {memory after : Memory} {path text : String} {file : Option (List UInt8)}

/-- Writing the file of the configuration makes its directory and then the file. -/
theorem runOn_writeConfig (memory : Memory) (path text : String) :
    runOn memory (writeConfig path text) =
      match (match Path.parent? path with
        | some parent => memory.disk.makeDirectories memory.working parent
        | none => some memory.disk) with
      | none => (.error .configDirectory, memory)
      | some disk =>
          match disk.changeFile memory.working path fun _ => Text.Utf8.encodeString text with
          | none => (.error .configWrite, { memory with disk })
          | some disk => (.ok (), { memory with disk }) := by
  have file : ∀ memory : Memory,
      runOn memory (do require (← Host.write (m := StateM Memory) path text) .configWrite) =
        match memory.disk.changeFile memory.working path fun _ => Text.Utf8.encodeString text with
        | none => (.error .configWrite, memory)
        | some disk => (.ok (), { memory with disk }) := by
    intro memory
    have written : Host.write (m := StateM Memory) path text memory =
        memory.change (memory.disk.changeFile memory.working path
          fun _ => Text.Utf8.encodeString text) := rfl
    rw [runOn_bind, runOn_lift]
    dsimp only
    rw [runOn_require, written]
    cases memory.disk.changeFile memory.working path fun _ => Text.Utf8.encodeString text <;> rfl
  rw [writeConfig]
  cases Path.parent? path with
  | none => exact file memory
  | some parent =>
      have made : Host.makeDirectories (m := StateM Memory) parent memory =
          memory.change (memory.disk.makeDirectories memory.working parent) := rfl
      dsimp only
      rw [runOn_bind, runOn_lift]
      dsimp only
      rw [runOn_bind, runOn_require, made]
      cases memory.disk.makeDirectories memory.working parent with
      | none => rfl
      | some disk => exact file { memory with disk }

/-- A file that was written has the bytes of the text. -/
theorem contents?_of_writeConfig
    (written : runOn memory (writeConfig path text) = (.ok (), after)) :
    after.disk.contents? after.working path = some (Text.Utf8.encodeString text) := by
  rw [runOn_writeConfig] at written
  split at written
  next => cases written
  next disk _ =>
    split at written
    next => cases written
    next changed change =>
      cases written
      exact Disk.contents?_of_changeFile change

/-- Setting a value reads the file, checks the change and then writes the file. -/
theorem runOn_setConfigAt
    (present : memory.disk.hasPath memory.working path = file.isSome)
    (holds : memory.disk.contents? memory.working path = file)
    (name raw : String) :
    runOn memory (setConfigAt path name raw) =
      match editFile file name raw with
      | .ok text => runOn memory (writeConfig path text)
      | .error error => (.error (.edit error), memory) := by
  have found : Host.hasPath (m := StateM Memory) path memory = (file.isSome, memory) := by
    rw [← present]
    rfl
  have bytes : Host.contents? (m := StateM Memory) path memory = (file, memory) := by
    rw [← holds]
    rfl
  rw [setConfigAt, runOn_bind, runOn_lift, found]
  dsimp only
  cases file with
  | none =>
      rw [Option.isSome_none, if_neg (by decide), runOn_bind, runOn_pure]
      dsimp only
      cases editFile none name raw <;> rfl
  | some content =>
      rw [Option.isSome_some, if_pos rfl, runOn_bind, runOn_lift, bytes]
      dsimp only
      rw [runOn_bind, runOn_pure]
      dsimp only
      cases editFile (some content) name raw <;> rfl

end CommandLine

namespace Config

open Toml

/-! ## Files as layers -/

theorem withEnvironment_none (config : Config) : (config.withEnvironment fun _ => none) = config :=
  rfl

/-- Without a file everything has its standard setting. -/
theorem load_nil : (load [] fun _ => none) = {} := by
  rw [load, withEnvironment_none]
  rfl

/-- A single file gives the configuration that its document is. -/
theorem load_singleton
    {bytes : List UInt8}
    {table : Table}
    {config : Config}
    (layer : layer? bytes = some table)
    (isConfig : ofTable? table = some config) :
    (load [bytes] fun _ => none) = config := by
  obtain ⟨sorted, -⟩ := layer?_eq_some layer
  rw [load, withEnvironment_none, ofFiles, List.filterMap_cons_some layer, List.filterMap_nil,
    Table.mergeAll_singleton sorted, isConfig, Option.getD_some]

/-- The standard document is the standard configuration, with a table for each group. -/
theorem standardTable_spec : Grouped standardTable ∧ ofTable? standardTable = some {} := by
  have grouped : ∀ key ∈ Key.all, (Entries.get? standardTable key.group).all Value.isTable := by
    decide +kernel
  have fits : ofTable? standardTable = some {} := by decide +kernel
  refine ⟨fun key value found => ?_, fits⟩
  have here := grouped key key.mem_all
  rwa [found] at here

/-- The document that is changed is that of the file, or the standard one without a file, and gives
the same configuration as the file. -/
theorem document_spec
    {file : Option (List UInt8)}
    (usable : ∀ bytes ∈ file, ∃ table, layer? bytes = some table ∧ Grouped table) :
    ∃ table, document file = .ok table ∧ Grouped table ∧
      ofTable? table = some (load file.toList fun _ => none) := by
  cases file with
  | none =>
      obtain ⟨grouped, fits⟩ := standardTable_spec
      exact ⟨standardTable, rfl, grouped, by rw [Option.toList_none, load_nil, fits]⟩
  | some bytes =>
      obtain ⟨table, layer, grouped⟩ := usable bytes rfl
      obtain ⟨-, config, isConfig⟩ := layer?_eq_some layer
      obtain ⟨text, decoded, read⟩ := Option.bind_eq_some_iff.mp layer
      obtain ⟨other, parsed, fits⟩ := Option.bind_eq_some_iff.mp read
      obtain ⟨_, _, same⟩ := Option.bind_eq_some_iff.mp fits
      cases same
      refine ⟨table, ?_, grouped, ?_⟩
      · rw [document, decoded]
        dsimp only
        rw [parsed]
      · rw [Option.toList_some, load_singleton layer isConfig, isConfig]

end Config

namespace CommandLine

open Config Toml

/-- Setting a value in a file of the configuration, or without one, changes one setting or nothing.
If it fails, the computer is as it was.  If it succeeds, the file gives the configuration that it
gave before, the standard one if there was none, with the one setting that the text denotes, and its
document keeps everything else.  The document has to be read back as it was written. -/
theorem setConfigAt_changes_one_setting
    {memory : Memory}
    {path name raw : String}
    {file : Option (List UInt8)}
    (present : memory.disk.hasPath memory.working path = file.isSome)
    (holds : memory.disk.contents? memory.working path = file)
    (usable : ∀ bytes ∈ file, ∃ table, layer? bytes = some table ∧ Grouped table)
    (writes : ∀ text, ∃ after, runOn memory (writeConfig path text) = (.ok (), after))
    (readsBack : ∀ table after, document file = .ok table → edit table name raw = .ok after →
      Table.parse? after.text = some after) :
    let before := load file.toList fun _ => none
    (∀ error after, runOn memory (setConfigAt path name raw) = (.error error, after) →
      after = memory) ∧
    ∀ after, runOn memory (setConfigAt path name raw) = (.ok (), after) →
      ∃ (table changed : Table) (key : Key) (setting : key.kind.Carrier) (bytes : List UInt8),
        document file = .ok table ∧ Edited table changed before name raw key setting ∧
        after.disk.contents? after.working path = some bytes ∧ layer? bytes = some changed ∧
        (load [bytes] fun _ => none) = key.set setting before := by
  intro before
  obtain ⟨table, isDocument, grouped, isConfig⟩ := document_spec usable
  rw [runOn_setConfigAt present holds]
  cases edited : edit table name raw with
  | error error =>
      have refused : editFile file name raw = .error error := by
        rw [editFile, isDocument]
        dsimp only [bind, Except.bind]
        rw [edited]
      rw [refused]
      refine ⟨fun _ after ran => ?_, fun after ran => ?_⟩
      · cases ran
        rfl
      · cases ran
  | ok changed =>
      have accepted : editFile file name raw = .ok changed.text := by
        rw [editFile, isDocument]
        dsimp only [bind, Except.bind]
        rw [edited]
        rfl
      obtain ⟨key, setting, change⟩ := edited_of_edit grouped isConfig edited
      obtain ⟨after, written⟩ := writes changed.text
      have layer : layer? (Text.Utf8.encodeString changed.text) = some changed := by
        rw [layer?, Text.Utf8.decodeString?_encodeString]
        dsimp only [bind, Option.bind]
        rw [readsBack table changed isDocument edited]
        dsimp only
        rw [change.fits]
        rfl
      rw [accepted]
      dsimp only
      rw [written]
      refine ⟨fun _ _ ran => ?_, fun _ ran => ?_⟩
      · cases ran
      · cases ran
        exact ⟨table, changed, key, setting, _, isDocument, change,
          contents?_of_writeConfig written, layer, load_singleton layer change.fits⟩

/-- A file that sets little, and something that nobody knows. -/
def sparseFile : List UInt8 :=
  Text.Utf8.encodeString "[extra]\nx = 1\n\n[tail]\namount = 2\nfile = \"a.log\"\n"

/-- A computer with such a file. -/
def sparseMemory : Memory := { disk := ⟨[(["c.toml"], .file sparseFile)]⟩ }

/-- What the file holds is a document with tables for its groups. -/
theorem layer?_sparseFile : ∃ table, layer? sparseFile = some table ∧ Grouped table := by
  have checked : (layer? sparseFile).any fun table => decide (Flat table) := by decide +kernel
  cases layer : layer? sparseFile with
  | none =>
      rw [layer] at checked
      cases checked
  | some table =>
      rw [layer, Option.any_some] at checked
      exact ⟨table, rfl, (of_decide_eq_true checked).grouped⟩

/-- Any text can be written over the file. -/
theorem exists_writeConfig_sparseMemory (text : String) :
    ∃ after, runOn sparseMemory (writeConfig "/c.toml" text) = (.ok (), after) := by
  have parent : Path.parent? "/c.toml" = some "/" := rfl
  have made : sparseMemory.disk.makeDirectories sparseMemory.working "/" =
      some sparseMemory.disk := rfl
  have place : sparseMemory.disk.place? sparseMemory.working "/c.toml" = some ["c.toml"] := rfl
  have old : sparseMemory.disk.node? ["c.toml"] = some (.file sparseFile) := rfl
  rw [runOn_writeConfig, parent]
  dsimp only
  rw [made]
  dsimp only
  rw [Disk.changeFile, place]
  dsimp only [bind, Option.bind]
  rw [if_neg (by decide), old]
  exact ⟨_, rfl⟩

/-- The document with another amount is read back. -/
theorem parse?_edit_sparseFile
    (table after : Table)
    (isDocument : document (some sparseFile) = .ok table)
    (edited : edit table "tail.amount" "5" = .ok after) :
    Table.parse? after.text = some after := by
  have checked : ((document (some sparseFile)).toOption.bind fun table =>
      (edit table "tail.amount" "5").toOption).all fun after =>
        decide (Table.parse? after.text = some after) := by
    decide +kernel
  rw [isDocument] at checked
  change ((edit table "tail.amount" "5").toOption).all _ = true at checked
  rw [edited] at checked
  exact of_decide_eq_true checked

/-- An amount that is written as an integer is changed to another one. -/
theorem setConfigAt_changes_one_setting_sparseFile :
    sparseMemory.disk.hasPath sparseMemory.working "/c.toml" = (some sparseFile).isSome ∧
      sparseMemory.disk.contents? sparseMemory.working "/c.toml" = some sparseFile ∧
      (∀ bytes ∈ some sparseFile, ∃ table, layer? bytes = some table ∧ Grouped table) ∧
      (∀ text, ∃ after, runOn sparseMemory (writeConfig "/c.toml" text) = (.ok (), after)) ∧
      (∀ table after, document (some sparseFile) = .ok table →
        edit table "tail.amount" "5" = .ok after → Table.parse? after.text = some after) ∧
      ∃ after bytes, runOn sparseMemory (setConfigAt "/c.toml" "tail.amount" "5") =
          (.ok (), after) ∧
        after.disk.contents? after.working "/c.toml" = some bytes ∧
        (load [bytes] fun _ => none) =
          Key.value.set (.ofInt 5) (load [sparseFile] fun _ => none) := by
  have present : sparseMemory.disk.hasPath sparseMemory.working "/c.toml" =
      (some sparseFile).isSome := rfl
  have holds : sparseMemory.disk.contents? sparseMemory.working "/c.toml" = some sparseFile := rfl
  have usable : ∀ bytes ∈ some sparseFile, ∃ table, layer? bytes = some table ∧ Grouped table := by
    intro bytes same
    rw [← Option.some.inj same]
    exact layer?_sparseFile
  obtain ⟨-, changes⟩ := @setConfigAt_changes_one_setting sparseMemory "/c.toml" "tail.amount" "5"
    (some sparseFile) present holds usable exists_writeConfig_sparseMemory parse?_edit_sparseFile
  obtain ⟨after, ran⟩ : ∃ after,
      runOn sparseMemory (setConfigAt "/c.toml" "tail.amount" "5") = (.ok (), after) := by
    have accepted : (editFile (some sparseFile) "tail.amount" "5").toOption.isSome := by
      decide +kernel
    rw [runOn_setConfigAt present holds]
    cases edited : editFile (some sparseFile) "tail.amount" "5" with
    | ok text => exact exists_writeConfig_sparseMemory text
    | error error =>
        rw [edited] at accepted
        cases accepted
  obtain ⟨table, changed, key, setting, bytes, -, change, written, -, loaded⟩ := changes after ran
  have isValue : key = .value := by
    have checked : ∀ key ∈ Key.all, "tail.amount" = key.fullName → key = .value := by
      decide +kernel
    exact checked key key.mem_all change.named
  subst isValue
  have isFive : setting = .ofInt 5 := by
    obtain ⟨parsed, isNumber, same⟩ := change.denotes
    have five : Number.Binary64.parse? "5" = some (.ofInt 5) := by decide +kernel
    have notZero : (Number.Binary64.ofInt 5).isZero = false := by decide +kernel
    rw [five] at isNumber
    rw [← Option.some.inj isNumber] at same
    rcases same with same | zero
    · exact same.symm
    · rw [notZero] at zero
      cases zero.1
  rw [isFive] at loaded
  exact ⟨present, holds, usable, exists_writeConfig_sparseMemory, parse?_edit_sparseFile, after,
    bytes, ran, written, loaded⟩

end CommandLine
end TailView
