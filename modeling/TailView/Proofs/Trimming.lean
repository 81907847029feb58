import Mathlib.Data.List.DropRight
import TailView.Text.Blank

/-!
# Trimmed texts

Trimming takes the blanks from both ends of a text and nothing else.  So a text without blanks at
its ends is what trimming leaves, whatever blanks stand around it.
-/

namespace TailView
namespace Text

variable {before text after cs : List Char}

/-- A text with no blank at its ends. -/
structure Trimmed (text : List Char) : Prop where
  /-- It does not begin with a blank. -/
  begins : ∀ c ∈ text.head?, isBlank c = false
  /-- It does not end with a blank. -/
  ends : ∀ c ∈ text.getLast?, isBlank c = false

instance (text : List Char) : Decidable (Trimmed text) :=
  have iff : ((text.head?.all (!isBlank ·)) = true ∧ (text.getLast?.all (!isBlank ·)) = true) ↔
      Trimmed text := by
    simp only [Option.all_eq_true, Bool.not_eq_true']
    exact ⟨fun both => ⟨both.1, both.2⟩, fun trimmed => ⟨trimmed.begins, trimmed.ends⟩⟩
  decidable_of_iff _ iff

namespace Trimmed

theorem of_forall (noBlank : ∀ c ∈ text, isBlank c = false) : Trimmed text where
  begins := fun c isFirst => noBlank c (List.mem_of_mem_head? isFirst)
  ends := fun c isLast => noBlank c (List.mem_of_mem_getLast? isLast)

/-- Between two texts with no blank at their outer ends anything may stand. -/
theorem append
    (first : Trimmed before)
    (text : List Char)
    (last : Trimmed after)
    (firstNonempty : before ≠ [])
    (lastNonempty : after ≠ []) :
    Trimmed (before ++ (text ++ after)) where
  begins := by
    rw [List.head?_append_of_ne_nil _ firstNonempty]
    exact first.begins
  ends := by
    rw [← List.append_assoc, List.getLast?_append_of_ne_nil _ lastNonempty]
    exact last.ends

end Trimmed

/-- Trimming takes blanks from both ends. -/
theorem exists_trimChars (cs : List Char) :
    ∃ before after, cs = before ++ trimChars cs ++ after ∧ (∀ c ∈ before, isBlank c = true) ∧
      ∀ c ∈ after, isBlank c = true := by
  have trimmed : trimChars cs = (cs.dropWhile isBlank).rdropWhile isBlank := rfl
  refine ⟨cs.takeWhile isBlank, (cs.dropWhile isBlank).rtakeWhile isBlank, ?_,
    fun _ => List.mem_takeWhile_imp, fun _ => List.mem_rtakeWhile_imp⟩
  rw [trimmed, List.append_assoc, List.rdropWhile_append_rtakeWhile,
    List.takeWhile_append_dropWhile]

/-- Trimming takes the blanks around a text with no blank at its ends, and nothing else. -/
theorem trimChars_append
    (blankBefore : ∀ c ∈ before, isBlank c = true)
    (blankAfter : ∀ c ∈ after, isBlank c = true)
    (trimmed : Trimmed text) :
    trimChars (before ++ text ++ after) = text := by
  rw [trimChars, stripWhere, List.append_assoc, List.dropWhile_append_of_pos blankBefore]
  cases text with
  | nil =>
      rw [List.nil_append, List.dropWhile_eq_nil_iff.mpr blankAfter]
      rfl
  | cons first rest =>
      have notBlank : ¬isBlank first = true := by
        rw [trimmed.begins first rfl]
        decide
      have lastNotBlank : (first :: rest).rdropWhile isBlank = first :: rest := by
        rw [List.rdropWhile_eq_self_iff]
        intro nonempty isBlankLast
        have notBlankLast := trimmed.ends _ (List.getLast?_eq_getLast_of_ne_nil nonempty)
        rw [notBlankLast] at isBlankLast
        cases isBlankLast
      rw [List.cons_append, List.dropWhile_cons_of_neg notBlank, ← List.cons_append,
        List.reverse_append,
        List.dropWhile_append_of_pos fun c member => blankAfter c (List.mem_reverse.mp member)]
      exact lastNotBlank

/-- What trimming leaves has no blank at its ends. -/
theorem trimmed_trimChars (cs : List Char) : Trimmed (trimChars cs) := by
  have trims : trimChars cs = (cs.dropWhile isBlank).rdropWhile isBlank := rfl
  rw [trims]
  constructor
  · intro c isFirst
    have nonempty : (cs.dropWhile isBlank).rdropWhile isBlank ≠ [] := by
      rintro nothing
      rw [nothing] at isFirst
      cases isFirst
    have whole : (cs.dropWhile isBlank).rdropWhile isBlank ++
        (cs.dropWhile isBlank).rtakeWhile isBlank = cs.dropWhile isBlank :=
      List.rdropWhile_append_rtakeWhile
    have first : (cs.dropWhile isBlank).head? = some c := by
      rw [← whole, List.head?_append_of_ne_nil _ nonempty]
      exact isFirst
    have notBlank := List.head?_dropWhile_not isBlank cs
    rw [first] at notBlank
    simpa using notBlank
  · intro c isLast
    obtain ⟨nonempty, rfl⟩ := List.mem_getLast?_eq_getLast isLast
    simpa using List.rdropWhile_last_not isBlank (cs.dropWhile isBlank) nonempty

theorem trimChars_eq_self (trimmed : Trimmed text) : trimChars text = text := by
  have alone := trimChars_append (List.forall_mem_nil _) (List.forall_mem_nil _) trimmed
  rwa [List.nil_append, List.append_nil] at alone

end Text
end TailView
