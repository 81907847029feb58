import TailView.Proofs.Classification
import TailView.Proofs.Timeline

/-!
# The errors of a log

The classifier takes the lines of a log one by one.  What it makes of them is a record: an entry for
every line that is filed, and a continuation for every line that belongs to the open section.  From
the record alone follows what the error sections of the log are.
-/

namespace TailView

/-- What a classifier makes of lines that come in one after the other. -/
def Classifier.classifyAll (classifier : Classifier) : List String → List Entry
  | [] => []
  | line :: rest => (classifier.classify line).1 :: (classifier.classify line).2.classifyAll rest

/-- The lines of a record that continue the section with a given id. -/
def continuationLines (recorded : List Entry) (id : EntryId) : List String :=
  (recorded.filter fun entry => entry.kind = .continuation ∧ entry.id = id).map (·.text)

/-- The error sections of a record in the order in which they were opened, each with all the lines
that continue it. -/
def errorSections (recorded : List Entry) : List Entry :=
  (recorded.filter (·.isError)).map fun head =>
    (continuationLines recorded head.id).foldl Entry.addLine head

variable {recorded : List Entry} {entry : Entry}

theorem Entry.isError_iff :
    entry.isError = true ↔ entry.kind = .sectionHead ∧ entry.severity = some .error := by
  simp [isError, isSection]

theorem Entry.id_foldl_addLine (entry : Entry) (lines : List String) :
    (lines.foldl addLine entry).id = entry.id := by
  induction lines generalizing entry with
  | nil => rfl
  | cons line rest inductionHypothesis => exact inductionHypothesis (entry.addLine line)

/-- An entry that is filed continues no section. -/
theorem continuationLines_append_of_stored (stored : entry.kind ≠ .continuation) (id : EntryId) :
    continuationLines (recorded ++ [entry]) id = continuationLines recorded id := by
  simp [continuationLines, stored]

/-- A line is one more line of the section that it continues. -/
theorem continuationLines_append_of_continuation
    (isContinuation : entry.kind = .continuation)
    (id : EntryId) :
    continuationLines (recorded ++ [entry]) id =
      continuationLines recorded id ++ (if id = entry.id then [entry.text] else []) := by
  by_cases same : id = entry.id
  · simp [continuationLines, isContinuation, same]
  · simp [continuationLines, isContinuation, same, Ne.symm same]

/-- A section whose id is new has no lines but its first one. -/
theorem continuationLines_eq_nil
    {id : EntryId}
    (unused : ∀ other ∈ recorded, other.id ≠ id) :
    continuationLines recorded id = [] := by
  rw [continuationLines, List.map_eq_nil_iff, List.filter_eq_nil_iff]
  intro other member
  simp [unused other member]

/-- An entry that is filed is one more error section, if it is one. -/
theorem errorSections_append_of_stored
    (stored : entry.kind ≠ .continuation)
    (unused : ∀ other ∈ recorded, other.id ≠ entry.id) :
    errorSections (recorded ++ [entry]) =
      errorSections recorded ++ (if entry.isError then [entry] else []) := by
  unfold errorSections
  simp only [continuationLines_append_of_stored stored, List.filter_append, List.map_append]
  congr 1
  cases isError : entry.isError with
  | true => simp [isError, continuationLines_eq_nil unused]
  | false => simp [isError]

/-- A line that continues a section grows it, if it is an error section. -/
theorem errorSections_append_of_continuation (isContinuation : entry.kind = .continuation) :
    errorSections (recorded ++ [entry]) =
      (errorSections recorded).map (Timeline.changeAt entry.id (·.addLine entry.text)) := by
  have noError : entry.isError = false := by
    simp [Entry.isError, Entry.isSection, isContinuation]
  have sameHeads : (recorded ++ [entry]).filter (·.isError) = recorded.filter (·.isError) := by
    simp [noError]
  rw [errorSections, errorSections, sameHeads, List.map_map]
  apply List.map_congr_left
  intro head _
  rw [continuationLines_append_of_continuation isContinuation, List.foldl_append,
    Function.comp_apply]
  unfold Timeline.changeAt
  rw [Entry.id_foldl_addLine]
  split <;> rfl

end TailView
