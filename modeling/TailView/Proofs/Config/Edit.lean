import TailView.Config.Edit
import TailView.Proofs.Config.Keys
import TailView.Proofs.Number.Decimal

/-!
# Changing one setting changes one setting

A setting is changed to what the text denotes for its kind, whatever kind of value the document has
in its place.  Every other place of the document keeps what it holds, so every other setting stays.
-/

namespace TailView
namespace Config

open Toml

/-! ## What a text denotes -/

/-- What a text denotes as a setting of a kind: itself, yes or no, a number, or what it names. -/
def Kind.Denotes : (kind : Kind) → String → kind.Carrier → Prop
  | .text, raw, setting => setting = raw
  | .truth, raw, setting => setting = isTruthy raw
  | .count, raw, setting => Number.parseInt64? raw = some (setting : Int)
  | .number, raw, setting =>
      ∃ parsed, Number.Binary64.parse? raw = some parsed ∧ parsed.SameValue setting
  | .unit, raw, setting => setting.name = raw
  | .rule, raw, setting => setting.name = raw
  | .mode, raw, setting => setting.name = raw

section Values

variable {name raw : String} {old new : Value}

theorem valueLike_integer_eq_ok
    {n : Int}
    (written : valueLike name raw (.integer n) = .ok new) :
    ∃ m, Number.parseInt64? raw = some m ∧ new = .integer m := by
  rw [valueLike] at written
  split at written
  next m isInteger =>
    cases written
    exact ⟨m, isInteger, rfl⟩
  next => cases written

theorem valueLike_float_eq_ok
    {x : Number.Binary64}
    (written : valueLike name raw (.float x) = .ok new) :
    ∃ y, Number.Binary64.parse? raw = some y ∧ new = .float y := by
  rw [valueLike] at written
  split at written
  next y isNumber =>
    cases written
    exact ⟨y, isNumber, rfl⟩
  next => cases written

/-- A name that is chosen is that of the choice. -/
theorem name_of_choice?
    {α : Type}
    {nameOf : α → String}
    {choices : List α}
    {chosen : α}
    (choice : choice? nameOf choices (.string raw) = some chosen) :
    nameOf chosen = raw := by
  have found : choices.find? (fun choice => nameOf choice = raw) = some chosen := choice
  have same := List.find?_some found
  exact of_decide_eq_true same

/-- In the place of a chosen name a text is taken as a name. -/
theorem eq_string_of_choice?
    {α : Type}
    {nameOf : α → String}
    {choices : List α}
    {before : α}
    (fitted : choice? nameOf choices old = some before)
    (written : valueLike name raw old = .ok new) :
    new = .string raw := by
  cases old with
  | string | table =>
      cases written
      rfl
  | _ => cases fitted

/-- A text that is read as a value of the kind of a fitting one, and fits as well, denotes the
setting that it gives. -/
theorem denotes_of_valueLike
    {kind : Kind}
    {before after : kind.Carrier}
    (fitted : Setting.ofValue? old = some before)
    (written : valueLike name raw old = .ok new)
    (fits : Setting.ofValue? new = some after) :
    kind.Denotes raw after := by
  cases kind with
  | text =>
      have same : new = .string raw := by
        cases old with
        | string | datetime =>
            cases written
            rfl
        | _ => cases fitted
      rw [same] at fits
      exact (Option.some.inj fits).symm
  | truth =>
      cases old with
      | boolean b =>
          cases written
          exact (Option.some.inj fits).symm
      | _ => cases fitted
  | count =>
      cases old with
      | integer n =>
          obtain ⟨m, isInteger, rfl⟩ := valueLike_integer_eq_ok written
          change (if 0 ≤ m then some m.toNat else none) = some after at fits
          obtain ⟨notNegative, same⟩ := Option.ite_none_right_eq_some.mp fits
          rw [Kind.Denotes, isInteger, ← Option.some.inj same, Int.toNat_of_nonneg notNegative]
      | _ => cases fitted
  | number =>
      cases old with
      | float x =>
          obtain ⟨y, isNumber, rfl⟩ := valueLike_float_eq_ok written
          exact ⟨y, isNumber, .inl (Option.some.inj fits)⟩
      | integer n =>
          obtain ⟨m, isInteger, rfl⟩ := valueLike_integer_eq_ok written
          rw [Kind.Denotes, ← Option.some.inj fits]
          exact Number.Binary64.exists_parse?_of_parseInt64? isInteger
      | _ => cases fitted
  | unit | rule | mode =>
      rw [eq_string_of_choice? fitted written] at fits
      exact name_of_choice? fits

end Values

/-! ## Where a setting is written -/

/-- Every place of the standard document is that of a key, and has its standard setting. -/
theorem exists_key_of_standardTable
    {group name : String}
    {value : Value}
    (found : (Value.table standardTable).at? [group, name] = some value) :
    ∃ key : Key, group = key.group ∧ name = key.name ∧
      Setting.ofValue? value = some (key.get {}) := by
  have checked : ∀ entry ∈ standardTable,
      ∀ leaf ∈ (groupEntries standardTable entry.1).toOption.getD [], ∃ key ∈ Key.all,
        entry.1 = key.group ∧ leaf.1 = key.name ∧
          Setting.ofValue? leaf.2 = some (key.get {}) := by
    decide +kernel
  obtain ⟨inner, inGroup, inTable⟩ := Value.at?_pair_eq_some found
  have entries : (groupEntries standardTable group).toOption.getD [] = inner := by
    rw [groupEntries, inGroup]
    rfl
  obtain ⟨key, _, isKey⟩ :=
    checked _ (Entries.mem_of_get? inGroup) _ (entries ▸ Entries.mem_of_get? inTable)
  exact ⟨key, isKey⟩

/-- The name of a key with that of its group. -/
def Key.fullName (key : Key) : String := key.group ++ "." ++ key.name

theorem splitKey_eq_ok {name group leaf : String} (split : splitKey name = .ok (group, leaf)) :
    name = group ++ "." ++ leaf := by
  rw [splitKey] at split
  cases parts : Text.splitFirst '.' name.toList with
  | none =>
      rw [parts] at split
      cases split
  | some pair =>
      rw [parts] at split
      cases split
      apply String.toList_inj.mp
      rw [(Text.splitFirst_eq_some parts).1]
      simp

theorem groupEntries_eq_ok
    {table inner : Table}
    {group : String}
    (entries : groupEntries table group = .ok inner) :
    Entries.get? table group = none ∧ inner = [] ∨
      Entries.get? table group = some (.table inner) := by
  rw [groupEntries] at entries
  split at entries
  next absent =>
    cases entries
    exact .inl ⟨absent, rfl⟩
  next found =>
    cases entries
    exact .inr found
  next => cases entries

/-- In its group a key has what the document has at its path. -/
theorem get?_of_groupEntries
    {table inner : Table}
    {group name : String}
    (entries : groupEntries table group = .ok inner) :
    Entries.get? inner name = (Value.table table).at? [group, name] := by
  rcases groupEntries_eq_ok entries with ⟨absent, rfl⟩ | found
  · rw [Value.at?_pair_of_none absent, Entries.get?_nil]
  · rw [Value.at?_pair_of_table found]

/-- A document with something new at one path keeps what it has at all paths that neither lead
there nor go on from there. -/
theorem at?_insert_of_not_prefix
    {table inner : Table}
    {group name : String}
    (entries : groupEntries table group = .ok inner)
    (value : Value)
    {path : List String}
    (notBefore : ¬path <+: [group, name])
    (notBehind : ¬[group, name] <+: path) :
    (Value.table (table.insert group (.table (inner.insert name value)))).at? path =
      (Value.table table).at? path := by
  match path with
  | [] => exact absurd List.nil_prefix notBefore
  | first :: rest =>
      by_cases sameGroup : group = first
      · subst sameGroup
        match rest with
        | [] => exact absurd (List.prefix_append [group] [name]) notBefore
        | second :: later =>
            have different : name ≠ second := by
              rintro rfl
              exact notBehind (List.prefix_append [group, name] later)
            rw [Value.at?, Value.at?, Entries.get?_insert_self]
            dsimp only
            rw [Value.at?, Entries.get?_insert_of_ne _ _ different]
            rcases groupEntries_eq_ok entries with ⟨absent, rfl⟩ | found
            · rw [absent, Entries.get?_nil]
            · rw [found]
              rfl
      · rw [Value.at?, Value.at?, Entries.get?_insert_of_ne _ _ sameGroup]

/-- Assigning a setting writes, at the path of some key, a text read as a value of the kind that the
document has there, or else of the standard one. -/
theorem assign_eq_ok
    {table after : Table}
    {name raw : String}
    (assigned : assign table name raw = .ok after) :
    ∃ (key : Key) (inner : Table) (standard value : Value), name = key.fullName ∧
      groupEntries table key.group = .ok inner ∧
      Setting.ofValue? standard = some (key.get {}) ∧
      valueLike name raw (((Value.table table).at? key.path).getD standard) = .ok value ∧
      after = table.insert key.group (.table (inner.insert key.name value)) := by
  rw [assign] at assigned
  cases parts : splitKey name with
  | error error =>
      rw [parts] at assigned
      cases assigned
  | ok pair =>
      obtain ⟨group, leaf⟩ := pair
      rw [parts] at assigned
      dsimp only [bind, Except.bind] at assigned
      split at assigned
      next => cases assigned
      next standard isStandard =>
        obtain ⟨key, rfl, rfl, fits⟩ := exists_key_of_standardTable isStandard
        cases entries : groupEntries table key.group with
        | error error =>
            rw [entries] at assigned
            cases assigned
        | ok inner =>
            rw [entries] at assigned
            dsimp only at assigned
            rw [get?_of_groupEntries entries] at assigned
            split at assigned
            next => cases assigned
            next value written =>
              cases assigned
              exact ⟨key, inner, standard, value, splitKey_eq_ok parts, entries, fits, written, rfl⟩

/-! ## The configuration after a change -/

/-- What a change does to a document: some key gets the setting that a text denotes, and every place
that does not lead there or go on from there keeps what it holds. -/
structure Edited (table after : Table) (config : Config) (name raw : String) (key : Key)
    (setting : key.kind.Carrier) : Prop where
  /-- The key is named. -/
  named : name = key.fullName
  /-- The setting is what the text denotes. -/
  denotes : key.kind.Denotes raw setting
  /-- The document is the configuration with that setting. -/
  fits : ofTable? after = some (key.set setting config)
  /-- Everything else in the document stays. -/
  keeps : ∀ path, ¬path <+: key.path → ¬key.path <+: path →
    (Value.table after).at? path = (Value.table table).at? path

theorem edit_eq_ok
    {table after : Table}
    {name raw : String}
    (edited : edit table name raw = .ok after) :
    assign table name raw = .ok after ∧ ∃ config, ofTable? after = some config := by
  rw [edit] at edited
  cases assigned : assign table name raw with
  | error error =>
      rw [assigned] at edited
      cases edited
  | ok changed =>
      rw [assigned] at edited
      dsimp only [bind, Except.bind] at edited
      split at edited
      next config fits =>
        cases edited
        exact ⟨rfl, config, fits⟩
      next => cases edited

/-- Paths of two keys that differ do not lead to each other. -/
theorem Key.not_prefix_of_ne {key other : Key} (different : other ≠ key) :
    ¬other.path <+: key.path := by
  intro before
  exact different (eq_of_path_eq (before.eq_of_length rfl))

/-- A change that succeeds changes one setting to what the text denotes, and nothing else. -/
theorem edited_of_edit
    {table after : Table}
    {config : Config}
    {name raw : String}
    (grouped : Grouped table)
    (isConfig : ofTable? table = some config)
    (edited : edit table name raw = .ok after) :
    ∃ (key : Key) (setting : key.kind.Carrier), Edited table after config name raw key setting := by
  obtain ⟨assigned, changed, fits⟩ := edit_eq_ok edited
  obtain ⟨key, inner, standard, value, named, entries, standardFits, written, rfl⟩ :=
    assign_eq_ok assigned
  have before := (ofTable?_eq_some_iff grouped config).mp isConfig
  have changedGrouped :
      Grouped (table.insert key.group (.table (inner.insert key.name value))) := by
    intro other entry found
    by_cases same : key.group = other.group
    · rw [← same, Entries.get?_insert_self] at found
      cases found
      rfl
    · rw [Entries.get?_insert_of_ne _ _ same] at found
      exact grouped other entry found
  have now := (ofTable?_eq_some_iff changedGrouped changed).mp fits
  have keeps : ∀ path, ¬path <+: key.path → ¬key.path <+: path →
      (Value.table (table.insert key.group (.table (inner.insert key.name value)))).at? path =
        (Value.table table).at? path :=
    fun path notBefore notBehind => at?_insert_of_not_prefix entries value notBefore notBehind
  have here : (Value.table (table.insert key.group (.table (inner.insert key.name value)))).at?
      key.path = some value := by
    rw [Key.path, Value.at?_pair_of_table (Entries.get?_insert_self ..), Entries.get?_insert_self]
  have fitted : Setting.ofValue? (((Value.table table).at? key.path).getD standard) =
      some (key.get config) := by
    have setting := before key
    cases found : (Value.table table).at? key.path with
    | none =>
        rw [Key.setting?_of_none found] at setting
        rw [Option.getD_none, standardFits, setting]
    | some old => rwa [Key.setting?_of_some found] at setting
  have valueFits : Setting.ofValue? value = some (key.get changed) := by
    rw [← Key.setting?_of_some here]
    exact now key
  have onlyKey : changed = key.set (key.get changed) config := by
    apply Key.eq_of_forall_get_eq
    intro other
    by_cases same : other = key
    · subst same
      rw [Key.get_set_self]
    · rw [Key.get_set_of_ne same]
      have unchanged : other.setting? (table.insert key.group
          (.table (inner.insert key.name value))) = other.setting? table := by
        rw [Key.setting?, keeps other.path (Key.not_prefix_of_ne same)
          (Key.not_prefix_of_ne (Ne.symm same)), ← Key.setting?]
      exact Option.some.inj ((now other).symm.trans (unchanged.trans (before other)))
  exact ⟨key, key.get changed, named, denotes_of_valueLike fitted written valueFits,
    onlyKey ▸ fits, keeps⟩

end Config
end TailView
