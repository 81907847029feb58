import TailView.Toml.Value

/-!
# Equality of values

Values are compared part by part, so it can be decided whether two of them are the same.
-/

namespace TailView
namespace Toml

namespace Value

mutual

/-- Whether two values are the same. -/
def same : Value → Value → Bool
  | .string text, .string other => text = other
  | .integer n, .integer other => n = other
  | .float x, .float other => x = other
  | .boolean b, .boolean other => b = other
  | .datetime time, .datetime other => time = other
  | .array items, .array others => sameItems items others
  | .table entries, .table others => sameEntries entries others
  | _, _ => false

/-- Whether two lists of values are the same. -/
def sameItems : List Value → List Value → Bool
  | [], [] => true
  | item :: rest, other :: others => same item other && sameItems rest others
  | _, _ => false

/-- Whether two lists of entries are the same. -/
def sameEntries : List (String × Value) → List (String × Value) → Bool
  | [], [] => true
  | (key, value) :: rest, (name, other) :: others =>
      decide (key = name) && same value other && sameEntries rest others
  | _, _ => false

end

mutual

theorem same_iff (value other : Value) : same value other = true ↔ value = other := by
  cases value <;> cases other <;>
    simp [same, sameItems_iff, sameEntries_iff]

theorem sameItems_iff (items others : List Value) :
    sameItems items others = true ↔ items = others := by
  match items, others with
  | [], [] => simp [sameItems]
  | [], _ :: _ => simp [sameItems]
  | _ :: _, [] => simp [sameItems]
  | item :: rest, other :: others =>
      rw [sameItems, Bool.and_eq_true, same_iff item other, sameItems_iff rest others,
        List.cons.injEq]

theorem sameEntries_iff (entries others : List (String × Value)) :
    sameEntries entries others = true ↔ entries = others := by
  match entries, others with
  | [], [] => simp [sameEntries]
  | [], _ :: _ => simp [sameEntries]
  | _ :: _, [] => simp [sameEntries]
  | (key, value) :: rest, (name, other) :: others =>
      rw [sameEntries, Bool.and_eq_true, Bool.and_eq_true, decide_eq_true_eq,
        same_iff value other, sameEntries_iff rest others, List.cons.injEq, Prod.mk.injEq]

end

instance : DecidableEq Value := fun value other => decidable_of_iff _ (same_iff value other)

end Value
end Toml
end TailView
