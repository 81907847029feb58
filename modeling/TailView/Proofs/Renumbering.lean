import TailView.Log.Classifier
import TailView.Proofs.Views

/-!
# Entries with other numbers

What the classifier makes of a line depends on the order of the ids it has handed out, and not on
the ids themselves: started with all ids raised by a constant it does the same with all ids raised.
The same holds of the entries that refer to each other.
-/

namespace TailView

namespace Entry

variable {offset : Nat}

/-- An entry with its ids raised. -/
def raise (offset : Nat) (entry : Entry) : Entry :=
  { entry with id := entry.id + offset, counterpart := entry.counterpart.map (· + offset) }

/-- An entry with its ids raised, as if it were to be seen. -/
def bare (offset : Nat) (entry : Entry) : Entry :=
  { entry.raise offset with visible := true }

/-- What is left of an entry if it does not matter whether it is seen. -/
def revealed (entry : Entry) : Entry := { entry with visible := true }

@[simp] theorem isError_raise (offset : Nat) (entry : Entry) :
    (entry.raise offset).isError = entry.isError :=
  rfl

@[simp] theorem text_bare (entry : Entry) : (entry.bare offset).text = entry.text := rfl

/-- Raised by nothing, an entry is the entry itself. -/
@[simp] theorem bare_zero : bare 0 = revealed := by
  funext entry
  simp [bare, raise, revealed]

/-- Raising the ids does not change which entry has which. -/
theorem bare_changeAt
    {id : EntryId}
    {change changeBare : Entry → Entry}
    (commutes : ∀ entry, (change entry).bare offset = changeBare (entry.bare offset))
    (entry : Entry) :
    (Timeline.changeAt id change entry).bare offset =
      Timeline.changeAt (id + offset) changeBare (entry.bare offset) := by
  by_cases same : entry.id = id
  · subst same
    rw [Timeline.changeAt_same, commutes]
    exact (Timeline.changeAt_same changeBare (entry.bare offset)).symm
  · have different : (entry.bare offset).id ≠ id + offset :=
      fun equal => same (Nat.add_right_cancel equal)
    rw [Timeline.changeAt_other change same, Timeline.changeAt_other changeBare different]

/-- A request notes its answer under the raised id. -/
theorem bare_noteAnswer (answer : EntryId) (entry : Entry) :
    (Scrollback.noteAnswer answer entry).bare offset =
      Scrollback.noteAnswer (answer + offset) (entry.bare offset) := by
  have sameKind : (entry.bare offset).kind = entry.kind := rfl
  unfold Scrollback.noteAnswer
  rw [sameKind]
  split <;> rfl

/-- An answer and the request that it belongs to are raised together. -/
theorem bare_answeredBy (answer entry : Entry) :
    (Scrollback.answeredBy answer entry).bare offset =
      Scrollback.answeredBy (answer.raise offset) (entry.bare offset) := by
  obtain ⟨id, kind, severity, text, correlationId, counterpart, visible⟩ := answer
  cases kind <;> cases counterpart <;> try rfl
  exact bare_changeAt (bare_noteAnswer id) entry

end Entry

namespace Unanswered

/-- Waiting requests with their ids raised. -/
def raise (offset : Nat) (requests : Unanswered) : Unanswered :=
  requests.map fun request => (request.1, request.2 + offset)

variable {offset : Nat}

theorem remove_raise (requests : Unanswered) (number : Nat) :
    (requests.raise offset).remove number = (requests.remove number).raise offset := by
  unfold raise remove
  rw [List.filter_map]
  rfl

theorem find?_raise (requests : Unanswered) (number : Nat) :
    (requests.raise offset).find? number = (requests.find? number).map (· + offset) := by
  unfold raise find?
  rw [List.find?_map, Option.map_map, Option.map_map]
  rfl

/-- Of two requests the same one is older when both are raised. -/
theorem older_raise (first second : Nat × EntryId) :
    older (first.1, first.2 + offset) (second.1, second.2 + offset) =
      ((older first second).1, (older first second).2 + offset) := by
  unfold older
  simp only [Nat.add_lt_add_iff_right]
  split <;> rfl

theorem foldl_older_raise (requests : Unanswered) (first : Nat × EntryId) :
    (requests.raise offset).foldl older (first.1, first.2 + offset) =
      ((requests.foldl older first).1, (requests.foldl older first).2 + offset) := by
  induction requests generalizing first with
  | nil => rfl
  | cons second rest inductionHypothesis =>
      rw [List.foldl_cons, ← inductionHypothesis, ← older_raise]
      rfl

theorem oldest?_raise (requests : Unanswered) :
    (requests.raise offset).oldest? =
      requests.oldest?.map fun request => (request.1, request.2 + offset) := by
  cases requests with
  | nil => rfl
  | cons first rest => exact congrArg some (foldl_older_raise rest first)

theorem bound_raise (requests : Unanswered) :
    (requests.raise offset).bound = requests.bound.raise offset := by
  have sameLength : (requests.raise offset).length = requests.length := List.length_map _
  unfold bound
  rw [sameLength, oldest?_raise]
  split
  · cases requests.oldest? with
    | some oldest => exact remove_raise requests oldest.1
    | none => rfl
  · rfl

theorem remember_raise (requests : Unanswered) (number : Nat) (entry : EntryId) :
    (requests.raise offset).remember number (entry + offset) =
      (requests.remember number entry).raise offset := by
  unfold remember
  rw [remove_raise, ← bound_raise]
  rfl

end Unanswered

namespace Classifier

/-- A classifier that has handed out other ids. -/
def raise (offset : Nat) (classifier : Classifier) : Classifier :=
  { classifier with
    nextId := classifier.nextId + offset
    openSection := classifier.openSection.map (· + offset)
    unanswered := classifier.unanswered.raise offset }

variable {offset : Nat}

/-- When the stream is reset only the next id is left to be raised. -/
theorem raise_reset_eq
    {other : Classifier}
    {otherOffset : Nat}
    {classifier : Classifier}
    (sameRule : classifier.rule = other.rule)
    (sameNext : classifier.nextId + offset = other.nextId + otherOffset) :
    classifier.reset.raise offset = other.reset.raise otherOffset := by
  unfold reset raise
  simp only [sameRule, sameNext]
  rfl

theorem continued?_raise (classifier : Classifier) (line : String) :
    (classifier.raise offset).continued? line = (classifier.continued? line).map (· + offset) := by
  unfold continued?
  split <;> rfl

/-- With all ids raised a line is filed as the same entry with its ids raised. -/
theorem classifyFresh_raise (classifier : Classifier) (line : String) :
    (classifier.raise offset).classifyFresh line =
      ((classifier.classifyFresh line).1.raise offset,
        (classifier.classifyFresh line).2.raise offset) := by
  have sameRule : (classifier.raise offset).rule = classifier.rule := rfl
  have sameStream : (classifier.raise offset).stream = classifier.stream := rfl
  have sameWaiting :
      (classifier.raise offset).unanswered = classifier.unanswered.raise offset := rfl
  have sameNext : (classifier.raise offset).nextId = classifier.nextId + offset := rfl
  have nextAfter : classifier.nextId + offset + 1 = classifier.nextId + 1 + offset :=
    Nat.add_right_comm _ _ _
  unfold classifyFresh
  simp only [sameRule, sameStream, sameWaiting, sameNext, nextAfter]
  split
  · rfl
  · split
    · simp only [Unanswered.remember_raise]
      rfl
    · split
      · simp only [Unanswered.find?_raise, Unanswered.remove_raise]
        rfl
      · rfl

theorem info_raise (classifier : Classifier) (text : String) :
    (classifier.raise offset).info text =
      ((classifier.info text).1.raise offset, (classifier.info text).2.raise offset) := by
  unfold info raise
  simp [Entry.raise, Nat.add_right_comm]

end Classifier
end TailView
