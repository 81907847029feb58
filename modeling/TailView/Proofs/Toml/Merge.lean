import TailView.Proofs.Toml.Equality
import TailView.Proofs.Toml.Sorted
import TailView.Toml.Merge

/-!
# What is in a merged table

Under each key a merged table holds what the overlay has there, laid over what the base has there.
So a path of keys leads into a merged table as it leads into the two tables it was made of: if the
overlay has something at the end, that lies over what the base has there; if the overlay puts
another value than a table in the way, nothing is behind that; and every other path leads to what
the base has.  A table laid over itself, or a second time, changes nothing.
-/

namespace TailView
namespace Toml

namespace Value

variable {table inner upper : Table} {base overlay value : Value} {group key : String}
  {path : List String}

/-- A value that counts as a table is one. -/
theorem exists_eq_table (isTable : value.isTable = true) : ∃ entries, value = .table entries := by
  cases value with
  | table entries => exact ⟨entries, rfl⟩
  | _ => cases isTable

/-! ## Paths into a value -/

theorem at?_table_cons (table : Table) (key : String) (path : List String) :
    (Value.table table).at? (key :: path) =
      (Entries.get? table key).bind fun inner => inner.at? path := by
  rw [at?]
  cases Entries.get? table key <;> rfl

theorem at?_cons_of_not_table (plain : value.isTable = false) (key : String) (path : List String) :
    value.at? (key :: path) = none := by
  cases value with
  | table entries => cases plain
  | _ => rfl

theorem at?_single (table : Table) (key : String) :
    (Value.table table).at? [key] = Entries.get? table key := by
  rw [at?_table_cons]
  cases Entries.get? table key <;> rfl

/-- A path is followed key by key. -/
theorem at?_cons (value : Value) (key : String) (path : List String) :
    value.at? (key :: path) = (value.at? [key]).bind fun inner => inner.at? path := by
  cases value with
  | table entries => rw [at?_table_cons, at?_single]
  | _ => rfl

theorem at?_append (value : Value) (front back : List String) :
    value.at? (front ++ back) = (value.at? front).bind fun inner => inner.at? back := by
  induction front generalizing value with
  | nil => rfl
  | cons key front inductionHypothesis =>
      rw [List.cons_append, at?_cons value key (front ++ back), at?_cons value key front,
        Option.bind_assoc]
      exact congrArg _ (funext inductionHypothesis)

theorem at?_pair_of_none (absent : Entries.get? table group = none) :
    (Value.table table).at? [group, key] = none := by
  rw [at?_table_cons, absent]
  rfl

theorem at?_pair_of_table (found : Entries.get? table group = some (.table inner)) :
    (Value.table table).at? [group, key] = Entries.get? inner key := by
  rw [at?_table_cons, found]
  exact at?_single inner key

/-- At the end of a path of two keys is what a table under the first has under the second. -/
theorem at?_pair_eq_some (found : (Value.table table).at? [group, key] = some value) :
    ∃ inner, Entries.get? table group = some (.table inner) ∧
      Entries.get? inner key = some value := by
  rw [at?_table_cons] at found
  obtain ⟨entry, here, found⟩ := Option.bind_eq_some_iff.mp found
  cases entry with
  | table inner => exact ⟨inner, here, at?_single inner key ▸ found⟩
  | _ => cases found

/-- What stands under a key, if it is a table. -/
def HoldsTable (table : Table) (group : String) : Prop :=
  ∀ value, Entries.get? table group = some value → value.isTable = true

/-- Under a key there is nothing, or a table. -/
theorem HoldsTable.cases (holds : HoldsTable table group) :
    Entries.get? table group = none ∨ ∃ inner, Entries.get? table group = some (.table inner) := by
  cases found : Entries.get? table group with
  | none => exact .inl rfl
  | some value =>
      obtain ⟨inner, rfl⟩ := exists_eq_table (holds value found)
      exact .inr ⟨inner, rfl⟩

/-- A value other than a table stands before the end of a path. -/
def CutsOff (value : Value) (path : List String) : Prop :=
  ∃ front key back, path = front ++ key :: back ∧
    ∃ found, value.at? front = some found ∧ found.isTable = false

/-- The end of a path cuts nothing off. -/
theorem not_cutsOff_nil (value : Value) : ¬value.CutsOff [] := by
  rintro ⟨front, key, back, split, -⟩
  exact absurd split (by simp)

/-- The way into a table is cut off behind the first key. -/
theorem cutsOff_table_cons_iff :
    (Value.table table).CutsOff (key :: path) ↔
      ∃ inner, Entries.get? table key = some inner ∧ inner.CutsOff path := by
  constructor
  · rintro ⟨front, next, back, split, found, here, plain⟩
    cases front with
    | nil =>
        cases here
        cases plain
    | cons first front =>
        cases split
        rw [at?_table_cons] at here
        obtain ⟨inner, below, here⟩ := Option.bind_eq_some_iff.mp here
        exact ⟨inner, below, front, next, back, rfl, found, here, plain⟩
  · rintro ⟨inner, below, front, next, back, rfl, found, here, plain⟩
    refine ⟨key :: front, next, back, rfl, found, ?_, plain⟩
    rw [at?_table_cons, below]
    exact here

/-- Where a group is a table, no setting in it is cut off. -/
theorem HoldsTable.not_cutsOff (holds : HoldsTable table group) (key : String) :
    ¬(Value.table table).CutsOff [group, key] := by
  rw [cutsOff_table_cons_iff]
  rintro ⟨entry, here, cut⟩
  obtain ⟨inner, rfl⟩ := exists_eq_table (holds entry here)
  obtain ⟨setting, -, cut⟩ := cutsOff_table_cons_iff.mp cut
  exact not_cutsOff_nil setting cut

/-! ## Merging under a key -/

/-- Only tables are merged: of other values the upper one is left. -/
theorem merge_of_not_both (notBoth : ¬(base.isTable = true ∧ value.isTable = true)) :
    Value.merge base value = value := by
  cases value with
  | table upper =>
      cases base with
      | table lower => exact absurd ⟨rfl, rfl⟩ notBoth
      | _ => rfl
  | _ => cases base <;> rfl

/-- A value that is no table hides what is below it. -/
theorem merge_of_not_table (base : Value) (plain : value.isTable = false) :
    Value.merge base value = value :=
  merge_of_not_both (by simp [plain])

theorem mergeOver_of_not_table (old : Option Value) (plain : value.isTable = false) :
    mergeOver old value = value := by
  cases old with
  | none => rfl
  | some base => exact merge_of_not_table base plain

/-- What a merged table has under a key. -/
theorem get?_mergeEntries
    (base : Table)
    {overlay : Table}
    (distinct : (overlay.map (·.1)).Nodup)
    (key : String) :
    Entries.get? (mergeEntries base overlay) key =
      match Entries.get? overlay key with
      | some value => some (mergeOver (Entries.get? base key) value)
      | none => Entries.get? base key := by
  induction overlay generalizing base with
  | nil => rw [mergeEntries_nil, Entries.get?_nil]
  | cons entry rest inductionHypothesis =>
      obtain ⟨name, value⟩ := entry
      obtain ⟨absent, restDistinct⟩ := List.nodup_cons.mp distinct
      rw [mergeEntries_cons, Entries.get?_cons]
      by_cases same : name = key
      · subst same
        rw [get?_mergeEntries_of_not_mem _ _ absent, Entries.get?_insert_self, if_pos rfl]
      · rw [inductionHypothesis _ restDistinct, Entries.get?_insert_of_ne _ _ same, if_neg same]

/-- What a merged table has under a key comes from the base, from the overlay, or from both. -/
theorem get?_mergeEntries_cases
    {base overlay : Table}
    (distinct : (overlay.map (·.1)).Nodup)
    (found : Entries.get? (mergeEntries base overlay) key = some value) :
    Entries.get? base key = some value ∨ Entries.get? overlay key = some value ∨
      ∃ below above, Entries.get? base key = some below ∧ Entries.get? overlay key = some above ∧
        value = Value.merge below above := by
  rw [get?_mergeEntries base distinct] at found
  cases here : Entries.get? overlay key with
  | none =>
      rw [here] at found
      exact .inl found
  | some above =>
      rw [here] at found
      cases under : Entries.get? base key with
      | none =>
          rw [under] at found
          exact .inr (.inl found)
      | some below =>
          rw [under] at found
          exact .inr (.inr ⟨below, above, rfl, rfl, (Option.some.inj found).symm⟩)

/-- A table laid over a table, or over nothing, is a table again. -/
theorem HoldsTable.merge
    {base overlay : Table}
    (baseHolds : HoldsTable base group)
    (overlayHolds : HoldsTable overlay group)
    (distinct : (overlay.map (·.1)).Nodup) :
    HoldsTable (base.merge overlay) group := by
  intro value found
  rcases get?_mergeEntries_cases distinct found with
    under | here | ⟨below, above, under, here, rfl⟩
  · exact baseHolds value under
  · exact overlayHolds value here
  · obtain ⟨bottom, rfl⟩ := exists_eq_table (baseHolds below under)
    obtain ⟨top, rfl⟩ := exists_eq_table (overlayHolds above here)
    rfl

/-! ## Paths into a merged value -/

/-- One key into a table that lies over something: the overlay is asked first, and what it has
there lies over what was there. -/
theorem at?_mergeOver_cons
    (old : Option Value)
    (distinct : (upper.map (·.1)).Nodup)
    (key : String)
    (path : List String) :
    (mergeOver old (.table upper)).at? (key :: path) =
      match Entries.get? upper key with
      | some inner => (mergeOver (old.bind fun base => base.at? [key]) inner).at? path
      | none => old.bind fun base => base.at? (key :: path) := by
  -- without a table below, the overlay stands alone
  have alone : ∀ under : Option Value,
      (∀ path, under.bind (fun base => base.at? (key :: path)) = none) →
      (Value.table upper).at? (key :: path) =
        match Entries.get? upper key with
        | some inner => (mergeOver (under.bind fun base => base.at? [key]) inner).at? path
        | none => under.bind fun base => base.at? (key :: path) := by
    intro under nothing
    rw [at?_table_cons, nothing [], nothing path]
    cases Entries.get? upper key <;> rfl
  cases old with
  | none => exact alone none fun _ => rfl
  | some base =>
      cases plain : base.isTable with
      | false =>
          rw [mergeOver, merge_of_not_both (by simp [plain])]
          exact alone (some base) fun path => at?_cons_of_not_table plain key path
      | true =>
          obtain ⟨lower, rfl⟩ := exists_eq_table plain
          rw [mergeOver, merge_tables, at?_table_cons, get?_mergeEntries lower distinct]
          cases Entries.get? upper key with
          | none => exact (at?_table_cons lower key path).symm
          | some inner =>
              simp only [Option.bind_some]
              rw [at?_single]

/-- What the overlay has at the end of a path lies over what was there. -/
theorem at?_mergeOver_of_some
    (old : Option Value)
    (sorted : overlay.Sorted)
    (found : overlay.at? path = some value) :
    (mergeOver old overlay).at? path =
      some (mergeOver (old.bind fun base => base.at? path) value) := by
  induction path generalizing old overlay with
  | nil =>
      cases found
      cases old <;> rfl
  | cons key path inductionHypothesis =>
      cases sorted with
      | table keys values =>
          rw [at?_table_cons] at found
          obtain ⟨inner, here, found⟩ := Option.bind_eq_some_iff.mp found
          have further := inductionHypothesis (old.bind fun base => base.at? [key])
            (values _ (Entries.mem_of_get? here)) found
          rw [at?_mergeOver_cons old keys.nodup_keys, here]
          simp only [further, Option.bind_assoc, ← at?_cons]
      | _ => cases found

/-- A path that the overlay neither has nor cuts off leads to what was there. -/
theorem at?_mergeOver_of_none
    (old : Option Value)
    (sorted : overlay.Sorted)
    (absent : overlay.at? path = none)
    (uncut : ¬overlay.CutsOff path) :
    (mergeOver old overlay).at? path = old.bind fun base => base.at? path := by
  induction path generalizing old overlay with
  | nil => cases absent
  | cons key path inductionHypothesis =>
      cases sorted with
      | table keys values =>
          rw [at?_mergeOver_cons old keys.nodup_keys]
          cases here : Entries.get? _ key with
          | none => rfl
          | some inner =>
              rw [at?_table_cons, here] at absent
              have further := inductionHypothesis (old.bind fun base => base.at? [key])
                (values _ (Entries.mem_of_get? here)) absent
                fun cut => uncut (cutsOff_table_cons_iff.mpr ⟨inner, here, cut⟩)
              simp only [further, Option.bind_assoc, ← at?_cons]
      | _ => exact absurd ⟨[], key, path, rfl, _, rfl, rfl⟩ uncut

/-- Behind a value of the overlay that is no table nothing is left. -/
theorem at?_mergeOver_of_cutsOff
    (old : Option Value)
    (sorted : overlay.Sorted)
    (cut : overlay.CutsOff path) :
    (mergeOver old overlay).at? path = none := by
  obtain ⟨front, key, back, rfl, found, here, plain⟩ := cut
  have top := at?_mergeOver_of_some old sorted here
  rw [mergeOver_of_not_table _ plain] at top
  rw [at?_append, top]
  exact at?_cons_of_not_table plain key back

/-- A merged table is one table laid over the other. -/
theorem table_merge (base overlay : Table) :
    Value.table (base.merge overlay) = mergeOver (some (.table base)) (.table overlay) := rfl

/-- Two keys deep a merged table has the scalar of the overlay, or else what the base has. -/
theorem at?_merge
    {overlay : Table}
    (base : Table)
    (sorted : (Value.table overlay).Sorted)
    (overlayHolds : HoldsTable overlay group)
    (plain : ∀ value, (Value.table overlay).at? [group, key] = some value →
      value.isTable = false) :
    (Value.table (base.merge overlay)).at? [group, key] =
      ((Value.table overlay).at? [group, key]).or ((Value.table base).at? [group, key]) := by
  rw [table_merge]
  cases found : (Value.table overlay).at? [group, key] with
  | none => exact at?_mergeOver_of_none _ sorted found (overlayHolds.not_cutsOff key)
  | some value =>
      rw [at?_mergeOver_of_some _ sorted found, mergeOver_of_not_table _ (plain value found)]
      rfl

/-! ## Order and repetition -/

theorem sorted_keys_mergeEntries
    {base : Table}
    (sorted : Entries.Sorted base)
    (overlay : Table) :
    Entries.Sorted (mergeEntries base overlay) := by
  induction overlay generalizing base with
  | nil =>
      rw [mergeEntries_nil]
      exact sorted
  | cons entry rest inductionHypothesis =>
      rw [mergeEntries_cons]
      exact inductionHypothesis (sorted.insert entry.1 _)

/-- What is merged from values in order is in order. -/
theorem Sorted.merge (sorted : overlay.Sorted) (baseSorted : base.Sorted) :
    (Value.merge base overlay).Sorted := by
  induction sorted generalizing base with
  | @table upper keys values inductionHypothesis =>
      cases plain : base.isTable with
      | false =>
          rw [merge_of_not_both (by simp [plain])]
          exact .table keys values
      | true =>
          obtain ⟨lower, rfl⟩ := exists_eq_table plain
          obtain ⟨lowerKeys, lowerValues⟩ := sorted_table_iff.mp baseSorted
          have mergedKeys := sorted_keys_mergeEntries lowerKeys upper
          rw [merge_tables]
          refine .table mergedKeys ?_
          rintro ⟨key, merged⟩ member
          have found := mergedKeys.get?_eq_some_iff.mpr member
          rcases get?_mergeEntries_cases keys.nodup_keys found with
            under | here | ⟨below, above, under, here, rfl⟩
          · exact lowerValues _ (Entries.mem_of_get? under)
          · exact values _ (Entries.mem_of_get? here)
          · exact inductionHypothesis _ (Entries.mem_of_get? here)
              (lowerValues _ (Entries.mem_of_get? under))
  | _ =>
      rw [merge_of_not_table base rfl]
      constructor <;> assumption

/-- A value laid over itself is not changed. -/
theorem Sorted.merge_self (sorted : value.Sorted) : Value.merge value value = value := by
  induction sorted with
  | @table entries keys values inductionHypothesis =>
      rw [merge_tables]
      refine congrArg Value.table
        ((sorted_keys_mergeEntries keys entries).ext keys fun key => ?_)
      rw [get?_mergeEntries entries keys.nodup_keys]
      cases here : Entries.get? entries key with
      | none => rfl
      | some inner => exact congrArg some (inductionHypothesis _ (Entries.mem_of_get? here))
  | _ => exact merge_of_not_table _ rfl

/-- What was laid over a value is not laid over it again. -/
theorem Sorted.merge_merge (sorted : overlay.Sorted) (baseSorted : base.Sorted) :
    Value.merge (Value.merge base overlay) overlay = Value.merge base overlay := by
  induction sorted generalizing base with
  | @table upper keys values inductionHypothesis =>
      cases plain : base.isTable with
      | false =>
          have alone : Value.merge base (.table upper) = .table upper :=
            merge_of_not_both (by simp [plain])
          rw [alone]
          exact (Sorted.table keys values).merge_self
      | true =>
          obtain ⟨lower, rfl⟩ := exists_eq_table plain
          obtain ⟨lowerKeys, lowerValues⟩ := sorted_table_iff.mp baseSorted
          have mergedKeys := sorted_keys_mergeEntries lowerKeys upper
          rw [merge_tables, merge_tables]
          refine congrArg Value.table
            ((sorted_keys_mergeEntries mergedKeys upper).ext mergedKeys fun key => ?_)
          rw [get?_mergeEntries _ keys.nodup_keys, get?_mergeEntries lower keys.nodup_keys]
          cases here : Entries.get? upper key with
          | none => rfl
          | some value =>
              have top := Entries.mem_of_get? here
              cases below : Entries.get? lower key with
              | none => exact congrArg some (values _ top).merge_self
              | some old =>
                  exact congrArg some
                    (inductionHypothesis _ top (lowerValues _ (Entries.mem_of_get? below)))
  | _ => rw [merge_of_not_table (Value.merge base _) rfl, merge_of_not_table base rfl]

end Value

namespace Table

variable {base overlay table : Table}

/-- A table over nothing is not changed. -/
theorem nil_merge (keys : Entries.Sorted table) : Table.merge [] table = table := by
  refine (Value.sorted_keys_mergeEntries List.Pairwise.nil table).ext keys fun key => ?_
  rw [Value.get?_mergeEntries [] keys.nodup_keys]
  cases Entries.get? table key <;> rfl

/-- A single document is not changed by merging. -/
theorem mergeAll_singleton (sorted : (Value.table table).Sorted) : mergeAll [table] = table :=
  nil_merge (Value.sorted_table_iff.mp sorted).1

/-- One table laid over another, at every depth.  A key that one of them has alone keeps its value,
tables under the same key are merged, and of other values under the same key the upper one is left.
So whatever stands at the end of a path in the overlay and is no table stands there in the merged
table; a path that the overlay neither has nor cuts off leads where it led in the base; and behind
a value that cuts it off nothing is left.  An empty table changes nothing, above or below, and
neither does a table over itself, or laid over a second time. -/
theorem merge_at_every_depth
    (baseSorted : (Value.table base).Sorted)
    (overlaySorted : (Value.table overlay).Sorted) :
    let merged := base.merge overlay
    (Value.table merged).Sorted ∧
      (∀ key,
        (Entries.get? overlay key = none → Entries.get? merged key = Entries.get? base key) ∧
        (Entries.get? base key = none → Entries.get? merged key = Entries.get? overlay key) ∧
        (∀ lower upper, Entries.get? base key = some (.table lower) →
          Entries.get? overlay key = some (.table upper) →
          Entries.get? merged key = some (.table (Table.merge lower upper))) ∧
        ∀ below above, Entries.get? base key = some below → Entries.get? overlay key = some above →
          ¬(below.isTable = true ∧ above.isTable = true) →
          Entries.get? merged key = some above) ∧
      (∀ path value, (Value.table overlay).at? path = some value → value.isTable = false →
        (Value.table merged).at? path = some value) ∧
      (∀ path, (Value.table overlay).at? path = none → ¬(Value.table overlay).CutsOff path →
        (Value.table merged).at? path = (Value.table base).at? path) ∧
      (∀ path, (Value.table overlay).CutsOff path → (Value.table merged).at? path = none) ∧
      base.merge [] = base ∧ Table.merge [] overlay = overlay ∧
      base.merge base = base ∧ merged.merge overlay = merged := by
  intro merged
  have isMerged : Value.table merged = Value.merge (.table base) (.table overlay) :=
    Value.table_merge base overlay
  obtain ⟨overlayKeys, -⟩ := Value.sorted_table_iff.mp overlaySorted
  have underKey := Value.get?_mergeEntries base overlayKeys.nodup_keys
  refine ⟨?_, ?_, ?_, ?_, ?_, ?_, ?_, ?_, ?_⟩
  · rw [isMerged]
    exact overlaySorted.merge baseSorted
  · intro key
    refine ⟨?_, ?_, ?_, ?_⟩
    · intro absent
      exact (underKey key).trans (by rw [absent])
    · intro absent
      refine (underKey key).trans ?_
      rw [absent]
      cases Entries.get? overlay key <;> rfl
    · intro lower upper below above
      refine (underKey key).trans ?_
      rw [below, above, Value.table_merge]
    · intro below above isBelow isAbove notBoth
      refine (underKey key).trans ?_
      rw [isBelow, isAbove]
      exact congrArg some (Value.merge_of_not_both notBoth)
  · intro path value found plain
    rw [Value.table_merge, Value.at?_mergeOver_of_some _ overlaySorted found,
      Value.mergeOver_of_not_table _ plain]
  · intro path absent uncut
    rw [Value.table_merge]
    exact Value.at?_mergeOver_of_none _ overlaySorted absent uncut
  · intro path cut
    rw [Value.table_merge]
    exact Value.at?_mergeOver_of_cutsOff _ overlaySorted cut
  · exact Value.mergeEntries_nil base
  · exact nil_merge overlayKeys
  · have same := baseSorted.merge_self
    rw [Value.merge_tables] at same
    exact Value.table.inj same
  · have twice := overlaySorted.merge_merge baseSorted
    rw [Value.merge_tables, Value.merge_tables] at twice
    exact Value.table.inj twice

/-- A table whose groups nest. -/
def nestedBase : Table :=
  [("log", .table
    [("file", .table
      [("keep", .table [("days", .integer 7), ("megabytes", .integer 20)])]),
    ("level", .table [("name", .string "warn")])])]

/-- A table with one value deep inside the same group, and with a text in place of a table. -/
def nestedOverlay : Table :=
  [("log", .table
    [("file", .table [("keep", .table [("days", .integer 30)])]),
    ("level", .string "debug")])]

/-- Four keys deep one value is replaced and its neighbour is kept; where the overlay has a text,
nothing is left of the table below; and a second time changes nothing. -/
theorem merge_at_every_depth_nested :
    let merged := nestedBase.merge nestedOverlay
    (Value.table nestedBase).Sorted ∧ (Value.table nestedOverlay).Sorted ∧
      (Value.table merged).at? ["log", "file", "keep", "days"] = some (.integer 30) ∧
      (Value.table merged).at? ["log", "file", "keep", "megabytes"] = some (.integer 20) ∧
      (Value.table merged).at? ["log", "level", "name"] = none ∧
      merged.merge nestedOverlay = merged := by
  intro merged
  have baseRead : parse? "log.file.keep = { days = 7, megabytes = 20 }\nlog.level.name = \"warn\"" =
      some nestedBase := by decide +kernel
  have overlayRead : parse? "log.file.keep.days = 30\nlog.level = \"debug\"" =
      some nestedOverlay := by decide +kernel
  have baseSorted := sorted_parse? baseRead
  have overlaySorted := sorted_parse? overlayRead
  have uncut : ¬(Value.table nestedOverlay).CutsOff ["log", "file", "keep", "megabytes"] := by
    simp [nestedOverlay, Value.cutsOff_table_cons_iff, Entries.get?_cons]
  obtain ⟨-, -, replaced, kept, hidden, -, -, -, twice⟩ :=
    merge_at_every_depth baseSorted overlaySorted
  refine ⟨baseSorted, overlaySorted, ?_, ?_, ?_, twice⟩
  · exact replaced _ _ rfl rfl
  · exact (kept _ rfl uncut).trans rfl
  · exact hidden _ ⟨["log", "level"], "name", [], rfl, .string "debug", rfl, rfl⟩

end Table
end Toml
end TailView
