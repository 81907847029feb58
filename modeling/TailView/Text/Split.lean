/-!
# Cutting a text at a separator

The first and the last occurrence of a separator divide a text into what stands before it and what
stands after it; all occurrences together divide it into pieces.  Joining the parts around the
separator gives the text back.
-/

namespace TailView
namespace Text

variable {α : Type} [DecidableEq α]

/-- What stands before and after the first `c`, or `none` if there is no `c`. -/
def splitFirst (c : α) : List α → Option (List α × List α)
  | [] => none
  | x :: rest =>
      if x = c then some ([], rest)
      else (splitFirst c rest).map fun (before, after) => (x :: before, after)

/-- What stands before and after the last `c`, or `none` if there is no `c`. -/
def splitLast (c : α) : List α → Option (List α × List α)
  | [] => none
  | x :: rest =>
      match splitLast c rest with
      | some (before, after) => some (x :: before, after)
      | none => if x = c then some ([], rest) else none

/-- What stands before and after the first occurrence of a whole list, or `none` if there is no
occurrence. -/
def splitAround (mark : List α) : List α → Option (List α × List α)
  | [] => if mark.isEmpty then some ([], []) else none
  | x :: rest =>
      match mark.isPrefixOf? (x :: rest) with
      | some after => some ([], after)
      | none => (splitAround mark rest).map fun (before, after) => (x :: before, after)

/-- The pieces between occurrences of `c`; there is one more piece than occurrences. -/
def pieces (c : α) : List α → List (List α)
  | [] => [[]]
  | x :: rest =>
      if x = c then [] :: pieces c rest
      else
        match pieces c rest with
        | [] => [[x]]
        | first :: others => (x :: first) :: others

/-- The lines of a text: its pieces between newline characters. -/
def lines (s : String) : List String := (pieces '\n' s.toList).map String.ofList

theorem splitFirst_eq_some {c : α} {cs before after : List α}
    (h : splitFirst c cs = some (before, after)) : cs = before ++ c :: after ∧ c ∉ before := by
  induction cs generalizing before with
  | nil => simp [splitFirst] at h
  | cons x rest ih =>
      by_cases hx : x = c
      · simp [splitFirst, hx] at h
        obtain ⟨rfl, rfl⟩ := h
        simp [hx]
      · simp only [splitFirst, hx, if_false, Option.map_eq_some_iff, Prod.mk.injEq] at h
        obtain ⟨⟨b, a⟩, hb, rfl, rfl⟩ := h
        obtain ⟨hc, hn⟩ := ih hb
        exact ⟨by simp [hc], by simp [hn, Ne.symm hx]⟩

theorem splitFirst_append {c : α} {before : List α} (after : List α) (h : c ∉ before) :
    splitFirst c (before ++ c :: after) = some (before, after) := by
  induction before with
  | nil => simp [splitFirst]
  | cons x rest ih =>
      simp only [List.mem_cons, not_or] at h
      simp [splitFirst, Ne.symm h.1, ih h.2]

theorem splitLast_eq_some {c : α} {cs before after : List α}
    (h : splitLast c cs = some (before, after)) : cs = before ++ c :: after ∧ c ∉ after := by
  induction cs generalizing before after with
  | nil => simp [splitLast] at h
  | cons x rest ih =>
      cases hr : splitLast c rest with
      | some p =>
          obtain ⟨b, a⟩ := p
          simp only [splitLast, hr, Option.some.injEq, Prod.mk.injEq] at h
          obtain ⟨hc, hn⟩ := ih hr
          exact ⟨by simp [← h.1, ← h.2, hc], by simpa [← h.2] using hn⟩
      | none =>
          by_cases hx : x = c
          · simp only [splitLast, hr, hx, if_true, Option.some.injEq, Prod.mk.injEq] at h
            obtain ⟨rfl, rfl⟩ := h
            refine ⟨by simp [hx], ?_⟩
            clear ih
            intro hm
            induction rest with
            | nil => simp at hm
            | cons y more ih =>
                cases hm' : splitLast c more with
                | some p => simp [splitLast, hm'] at hr
                | none =>
                    by_cases hy : y = c
                    · simp [splitLast, hm', hy] at hr
                    · rcases List.mem_cons.1 hm with rfl | hm
                      · exact hy rfl
                      · exact ih hm' hm
          · simp [splitLast, hr, hx] at h

theorem splitLast_eq_none_iff {c : α} {cs : List α} : splitLast c cs = none ↔ c ∉ cs := by
  induction cs with
  | nil => simp [splitLast]
  | cons x rest ih =>
      cases hr : splitLast c rest with
      | some p => simp [splitLast, hr, ← ih]
      | none => simp [splitLast, hr, ih.1 hr, eq_comm]

theorem splitLast_append {c : α} (before : List α) {after : List α} (h : c ∉ after) :
    splitLast c (before ++ c :: after) = some (before, after) := by
  induction before with
  | nil => simp [splitLast, splitLast_eq_none_iff.2 h]
  | cons x rest ih => simp [splitLast, ih]

theorem pieces_ne_nil (c : α) (cs : List α) : pieces c cs ≠ [] := by
  cases cs with
  | nil => simp [pieces]
  | cons x rest =>
      rw [pieces]
      split
      · simp
      · split <;> simp

/-- No piece holds the separator. -/
theorem not_mem_of_mem_pieces {c : α} {cs piece : List α} (h : piece ∈ pieces c cs) :
    c ∉ piece := by
  induction cs generalizing piece with
  | nil => simp [pieces] at h; simp [h]
  | cons x rest ih =>
      rw [pieces] at h
      split at h
      · rcases List.mem_cons.1 h with rfl | h
        · simp
        · exact ih h
      next hx =>
        split at h
        · simp at h; simp [h, Ne.symm hx]
        next first others hp =>
          rcases List.mem_cons.1 h with rfl | h
          · have := @ih first (by simp [hp])
            simp [this, Ne.symm hx]
          · exact ih (by simp [hp, h])

/-- Joining the pieces around the separator gives the text back. -/
theorem intercalate_pieces (c : α) (cs : List α) : [c].intercalate (pieces c cs) = cs := by
  induction cs with
  | nil => rfl
  | cons x rest ih =>
      have hne := pieces_ne_nil c rest
      rw [pieces]
      cases hp : pieces c rest with
      | nil => exact absurd hp hne
      | cons first others =>
          rw [hp] at ih
          split
          next hx => simpa [List.intercalate, hx] using ih
          next hx => cases others <;> simpa [List.intercalate] using ih

end Text
end TailView
