import TailView.Toml.Value

/-!
# Merging values

A table laid over another one merges with it key by key, at every depth.  Any other value hides what
lies below it.
-/

namespace TailView
namespace Toml

mutual

/-- A value laid over another one. -/
def Value.merge : Value → Value → Value
  | .table base, .table overlay => .table (Value.mergeEntries base overlay)
  | _, .string text => .string text
  | _, .integer n => .integer n
  | _, .float x => .float x
  | _, .boolean b => .boolean b
  | _, .datetime time => .datetime time
  | _, .array items => .array items
  | _, .table overlay => .table overlay

/-- The entries of a table with other entries laid over them. -/
def Value.mergeEntries (base : List (String × Value)) : List (String × Value) → List (String × Value)
  | [] => base
  | (key, value) :: rest =>
      Value.mergeEntries
        (Entries.insert base key
          (match Entries.get? base key with
            | some old => Value.merge old value
            | none => value))
        rest

end

/-- A value laid over what is under a key, if anything is there. -/
def Value.mergeOver (old : Option Value) (value : Value) : Value :=
  match old with
  | some old => Value.merge old value
  | none => value

@[simp]
theorem Value.merge_tables (base overlay : Table) :
    Value.merge (.table base) (.table overlay) = .table (Value.mergeEntries base overlay) := rfl

@[simp]
theorem Value.mergeEntries_nil (base : Table) : Value.mergeEntries base [] = base := rfl

theorem Value.mergeEntries_cons (base : Table) (key : String) (value : Value) (rest : Table) :
    Value.mergeEntries base ((key, value) :: rest) =
      Value.mergeEntries (base.insert key (Value.mergeOver (base.get? key) value)) rest := rfl

/-- Keys that the overlay does not have keep their values. -/
theorem Value.get?_mergeEntries_of_not_mem (base overlay : Table) {key : String}
    (absent : key ∉ overlay.map (·.1)) :
    Entries.get? (Value.mergeEntries base overlay) key = base.get? key := by
  induction overlay generalizing base with
  | nil => simp
  | cons entry rest ih =>
      obtain ⟨name, value⟩ := entry
      simp only [List.map_cons, List.mem_cons, not_or] at absent
      rw [Value.mergeEntries_cons, ih _ absent.2,
        Entries.get?_insert_of_ne _ _ (Ne.symm absent.1)]

/-- A table laid over another one. -/
def Table.merge (base overlay : Table) : Table := Value.mergeEntries base overlay

/-- Layers laid over each other, the first one at the bottom. -/
def Table.mergeAll (layers : List Table) : Table := layers.foldl Table.merge []

end Toml
end TailView
