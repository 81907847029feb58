/-!
# Entries under keys

A table of a document holds values under distinct keys.  Its entries are kept in the order of their
keys; looking a key up after an insertion finds the new value under that key, and the old ones under
all others.
-/

namespace TailView
namespace Toml

/-- What a table holds, in the order of the keys. -/
abbrev Entries (α : Type) := List (String × α)

namespace Entries

variable {α : Type}

/-- The value under a key. -/
def get? (entries : Entries α) (key : String) : Option α :=
  match entries with
  | [] => none
  | (name, value) :: rest => if name = key then some value else get? rest key

/-- The entries with a value under a key, which replaces the one that was there. -/
def insert (entries : Entries α) (key : String) (value : α) : Entries α :=
  match entries with
  | [] => [(key, value)]
  | (name, old) :: rest =>
      if name = key then (key, value) :: rest
      else if key < name then (key, value) :: (name, old) :: rest
      else (name, old) :: insert rest key value

@[simp]
theorem get?_nil (key : String) : get? ([] : Entries α) key = none := rfl

theorem get?_cons (name : String) (value : α) (rest : Entries α) (key : String) :
    get? ((name, value) :: rest) key = if name = key then some value else get? rest key := rfl

@[simp]
theorem get?_insert_self (entries : Entries α) (key : String) (value : α) :
    (entries.insert key value).get? key = some value := by
  induction entries with
  | nil => simp [insert, get?]
  | cons entry rest ih =>
      obtain ⟨name, old⟩ := entry
      by_cases hn : name = key
      · simp [insert, hn, get?]
      · by_cases hl : key < name
        · simp [insert, hn, hl, get?]
        · simp [insert, hn, hl, get?, ih]

theorem get?_insert_of_ne (entries : Entries α) {key other : String} (value : α)
    (h : key ≠ other) : (entries.insert key value).get? other = entries.get? other := by
  induction entries with
  | nil => simp [insert, get?, h]
  | cons entry rest ih =>
      obtain ⟨name, old⟩ := entry
      by_cases hn : name = key
      · subst hn
        simp [insert, get?, h]
      · by_cases hl : key < name
        · simp [insert, hn, hl, get?, h]
        · simp [insert, hn, hl, get?, ih]

end Entries
end Toml
end TailView
