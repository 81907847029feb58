import TailView.Proofs.Order

/-!
# Requests and their answers

An answer is linked to the request of its number that waits for one, and that is the latest request
of the number.  From then on the two refer to each other, as long as both are in the view; the
request goes first, so a request in the view never refers to an answer that is gone.  What carries
this from step to step is what the classifier knows of the requests that still wait.
-/

namespace TailView

namespace Unanswered

variable {requests : Unanswered} {request : Nat × EntryId} {number : Nat} {id : EntryId}

theorem mem_remove_iff :
    request ∈ requests.remove number ↔ request ∈ requests ∧ request.1 ≠ number := by
  simp [remove]

theorem remove_sublist (requests : Unanswered) (number : Nat) :
    (requests.remove number).Sublist requests :=
  List.filter_sublist

theorem bound_sublist (requests : Unanswered) : requests.bound.Sublist requests := by
  unfold bound
  split
  · split
    · exact remove_sublist _ _
    · exact List.Sublist.refl _
  · exact List.Sublist.refl _

/-- A request waits when it has come in just now, or has waited before under another number. -/
theorem mem_of_mem_remember (member : request ∈ requests.remember number id) :
    request = (number, id) ∨ request ∈ requests ∧ request.1 ≠ number := by
  rcases List.mem_cons.mp ((bound_sublist _).mem member) with new | old
  · exact .inl new
  · exact .inr (mem_remove_iff.mp old)

theorem mem_of_find?_eq_some (found : requests.find? number = some id) :
    (number, id) ∈ requests := by
  obtain ⟨request, isFound, rfl⟩ := Option.map_eq_some_iff.mp found
  have sameNumber : request.1 = number := by simpa using List.find?_some isFound
  rw [← sameNumber]
  exact List.mem_of_find?_eq_some isFound

end Unanswered

namespace Classifier

variable {classifier next : Classifier} {entry : Entry}

/-- An entry was handed out, and what is known of the requests that wait is up to date. -/
inductive Correlates (classifier : Classifier) (entry : Entry) (next : Classifier) : Prop
  /-- A request waits from now on, in the place of an older one with its number. -/
  | request (number : Nat) :
      entry.kind = .requestStart → entry.correlationId = some number →
      entry.counterpart = none →
      next.unanswered = classifier.unanswered.remember number entry.id →
      Correlates classifier entry next
  /-- An answer is linked to the request that waits under its number, which then waits no more. -/
  | answer (number : Nat) :
      entry.kind = .requestEnd → entry.correlationId = some number →
      entry.counterpart = classifier.unanswered.find? number →
      next.unanswered = classifier.unanswered.remove number →
      Correlates classifier entry next
  /-- Any other entry changes nothing. -/
  | other :
      entry.kind ≠ .requestStart → entry.kind ≠ .requestEnd →
      entry.counterpart = none →
      next.unanswered = classifier.unanswered →
      Correlates classifier entry next

theorem classifyFresh_correlates (classifier : Classifier) (line : String) :
    classifier.Correlates (classifier.classifyFresh line).1 (classifier.classifyFresh line).2 := by
  unfold classifyFresh
  simp only
  split
  · exact .other nofun nofun rfl rfl
  · split
    · next start _ => exact .request start.id rfl rfl rfl rfl
    · split
      · next answer _ => exact .answer answer.id rfl rfl rfl rfl
      · exact .other nofun nofun rfl rfl

theorem info_correlates (classifier : Classifier) (text : String) :
    classifier.Correlates (classifier.info text).1 (classifier.info text).2 :=
  .other nofun nofun rfl rfl

/-- Only answers are handed out with a counterpart. -/
theorem Correlates.unlinked
    (correlates : classifier.Correlates entry next)
    (noEnd : entry.kind ≠ .requestEnd) :
    entry.counterpart = none := by
  cases correlates with
  | request number isStart sameNumber free waits => exact free
  | answer number isEnd sameNumber found waits => exact absurd isEnd noEnd
  | other noStart noEnd free waits => exact free

/-- Whether the filter lets the entry be seen does not matter. -/
theorem Correlates.setVisible
    (correlates : classifier.Correlates entry next)
    (visible : Bool) :
    classifier.Correlates { entry with visible } next := by
  cases correlates with
  | request number kind number' counterpart waits =>
      exact .request number kind number' counterpart waits
  | answer number kind number' counterpart waits =>
      exact .answer number kind number' counterpart waits
  | other noStart noEnd counterpart waits => exact .other noStart noEnd counterpart waits

end Classifier

/-- An entry is the answer to the request with a given id. -/
structure Entry.Answers (answer : Entry) (request : EntryId) : Prop where
  /-- The entry is an answer. -/
  kind_eq : answer.kind = .requestEnd
  /-- It refers to the request. -/
  counterpart_eq : answer.counterpart = some request

namespace Scrollback

variable {answer entry : Entry}

/-- Only the request that an answer refers to is told of it. -/
theorem answeredBy_of_not_answers (unrelated : ¬answer.Answers entry.id) :
    answeredBy answer entry = entry := by
  unfold answeredBy
  split
  · next request isEnd refers =>
      apply Timeline.changeAt_other
      rintro rfl
      exact unrelated ⟨isEnd, refers⟩
  · rfl

/-- The request that an answer refers to is told of it. -/
theorem counterpart_answeredBy
    (answers : answer.Answers entry.id)
    (isStart : entry.kind = .requestStart) :
    (answeredBy answer entry).counterpart = some answer.id := by
  unfold answeredBy
  rw [answers.kind_eq, answers.counterpart_eq]
  simp [noteAnswer, isStart]

/-- What an entry is the answer to does not change when another one comes in. -/
theorem answers_answeredBy {request : EntryId} :
    (answeredBy answer entry).Answers request ↔ entry.Answers request := by
  by_cases isStart : entry.kind = .requestStart
  · have isStartAfter : (answeredBy answer entry).kind = .requestStart :=
      (kind_answeredBy answer entry).trans isStart
    constructor
    · intro answers
      rw [answers.kind_eq] at isStartAfter
      cases isStartAfter
    · intro answers
      rw [answers.kind_eq] at isStart
      cases isStart
  · rw [answeredBy_of_kind_ne isStart]

/-- An entry of a view after another one came in. -/
theorem mem_enter {view : List Entry} {shown : Entry} :
    shown ∈ view.map (answeredBy answer) ++ [answer] ↔
      (∃ earlier ∈ view, answeredBy answer earlier = shown) ∨ shown = answer := by
  rw [List.mem_append, List.mem_map, List.mem_singleton]

end Scrollback

/-- A change of entries that keeps what they refer to and what refers to them. -/
structure KeepsLinks (change : Entry → Entry) : Prop where
  /-- The entry is the same one. -/
  id_eq : ∀ entry, (change entry).id = entry.id
  /-- It is of the same kind. -/
  kind_eq : ∀ entry, (change entry).kind = entry.kind
  /-- It has the same number. -/
  number_eq : ∀ entry, (change entry).correlationId = entry.correlationId
  /-- It refers to the same entry. -/
  counterpart_eq : ∀ entry, (change entry).counterpart = entry.counterpart

theorem KeepsLinks.answers_iff
    {change : Entry → Entry}
    (keeps : KeepsLinks change)
    {entry : Entry}
    {request : EntryId} :
    (change entry).Answers request ↔ entry.Answers request := by
  constructor
  · rintro ⟨kind, counterpart⟩
    exact ⟨keeps.kind_eq entry ▸ kind, keeps.counterpart_eq entry ▸ counterpart⟩
  · rintro ⟨kind, counterpart⟩
    exact ⟨(keeps.kind_eq entry).trans kind, (keeps.counterpart_eq entry).trans counterpart⟩

/-- The requests and the answers in a view refer to each other. -/
structure CrossReferenced (view : List Entry) : Prop where
  /-- A request is older than its answer. -/
  before : ∀ answer ∈ view, ∀ request, answer.Answers request → request < answer.id
  /-- A request has one answer. -/
  only : ∀ first ∈ view, ∀ second ∈ view, ∀ request,
    first.Answers request → second.Answers request → first = second
  /-- An answer belongs to the latest request of its number. -/
  latest : ∀ answer ∈ view, ∀ request, answer.Answers request →
    ∀ start ∈ view, start.kind = .requestStart → start.correlationId = answer.correlationId →
      ¬(request < start.id ∧ start.id < answer.id)
  /-- If the request of an answer is in the view, it refers back to the answer. -/
  told : ∀ answer ∈ view, ∀ start ∈ view, answer.Answers start.id →
    start.kind = .requestStart ∧ start.correlationId = answer.correlationId ∧
      start.counterpart = some answer.id
  /-- The answer of a request is in the view and refers back to the request. -/
  found : ∀ start ∈ view, start.kind = .requestStart → ∀ id, start.counterpart = some id →
    start.id < id ∧ ∃ answer ∈ view, answer.id = id ∧ answer.Answers start.id ∧
      answer.correlationId = start.correlationId
  /-- Other entries refer to nothing. -/
  others : ∀ entry ∈ view, entry.kind ≠ .requestStart → entry.kind ≠ .requestEnd →
    entry.counterpart = none

/-- A request of a number whose answer may still come. -/
structure Awaited (view : List Entry) (number : Option Nat) (request : EntryId) : Prop where
  /-- It has no answer. -/
  unanswered : ∀ other ∈ view, ¬other.Answers request
  /-- It is the latest request of its number. -/
  latest : ∀ start ∈ view, start.kind = .requestStart → start.correlationId = number →
    start.id ≤ request
  /-- If it is in the view, it is a request with the number. -/
  isStart : ∀ start ∈ view, start.id = request →
    start.kind = .requestStart ∧ start.correlationId = number

/-- A request that an answer can be linked to. -/
structure IsOpenFor (view : List Entry) (answer : Entry) (request : EntryId) : Prop
    extends Awaited view answer.correlationId request where
  /-- It is older than the answer. -/
  before : request < answer.id

namespace CrossReferenced

open Scrollback

variable {view : List Entry} {entry : Entry}

/-- An answer that comes in does not take its request from an older answer. -/
theorem told_enter
    (referenced : CrossReferenced view)
    (newest : ∀ other ∈ view, other.id < entry.id)
    (isOpen : ∀ request, entry.Answers request → IsOpenFor view entry request)
    {answer start : Entry}
    (answerMember : answer ∈ view.map (answeredBy entry) ++ [entry])
    (startMember : start ∈ view.map (answeredBy entry) ++ [entry])
    (answers : answer.Answers start.id) :
    start.kind = .requestStart ∧ start.correlationId = answer.correlationId ∧
      start.counterpart = some answer.id := by
  rcases mem_enter.mp answerMember with ⟨answer, oldAnswer, rfl⟩ | rfl <;>
    rcases mem_enter.mp startMember with ⟨start, oldStart, rfl⟩ | rfl
  · rw [answers_answeredBy, id_answeredBy] at answers
    have unrelated : ¬entry.Answers start.id :=
      fun taken => (isOpen _ taken).unanswered answer oldAnswer answers
    rw [answeredBy_of_not_answers unrelated, correlationId_answeredBy, id_answeredBy]
    exact referenced.told answer oldAnswer start oldStart answers
  · rw [answers_answeredBy] at answers
    exact absurd (referenced.before answer oldAnswer _ answers)
      (Nat.lt_asymm (newest answer oldAnswer))
  · rw [id_answeredBy] at answers
    obtain ⟨isStart, sameNumber⟩ := (isOpen _ answers).isStart start oldStart rfl
    exact ⟨(kind_answeredBy _ _).trans isStart, (correlationId_answeredBy _ _).trans sameNumber,
      counterpart_answeredBy answers isStart⟩
  · exact absurd (isOpen _ answers).before (Nat.lt_irrefl _)

/-- A request keeps its answer, or the answer has just come in. -/
theorem found_enter
    (referenced : CrossReferenced view)
    (isOpen : ∀ request, entry.Answers request → IsOpenFor view entry request)
    (unlinked : entry.kind ≠ .requestEnd → entry.counterpart = none)
    {start : Entry}
    {id : EntryId}
    (startMember : start ∈ view.map (answeredBy entry) ++ [entry])
    (isStart : start.kind = .requestStart)
    (refers : start.counterpart = some id) :
    start.id < id ∧ ∃ answer ∈ view.map (answeredBy entry) ++ [entry],
      answer.id = id ∧ answer.Answers start.id ∧
        answer.correlationId = start.correlationId := by
  rcases mem_enter.mp startMember with ⟨start, oldStart, rfl⟩ | rfl
  · rw [kind_answeredBy] at isStart
    rw [id_answeredBy, correlationId_answeredBy]
    by_cases answers : entry.Answers start.id
    · rw [counterpart_answeredBy answers isStart] at refers
      cases refers
      have sameNumber := ((isOpen _ answers).isStart start oldStart rfl).2
      exact ⟨(isOpen _ answers).before, entry, mem_enter.mpr (.inr rfl), rfl, answers,
        sameNumber.symm⟩
    · rw [answeredBy_of_not_answers answers] at refers
      obtain ⟨before, answer, oldAnswer, same, answersStart, sameNumber⟩ :=
        referenced.found start oldStart isStart id refers
      exact ⟨before, answeredBy entry answer, mem_enter.mpr (.inl ⟨answer, oldAnswer, rfl⟩),
        (id_answeredBy _ _).trans same, answers_answeredBy.mpr answersStart,
        (correlationId_answeredBy _ _).trans sameNumber⟩
  · rw [unlinked (by rw [isStart]; nofun)] at refers
    cases refers

/-- An entry comes in and is linked to the request that it answers, if it answers one. -/
theorem enter
    (referenced : CrossReferenced view)
    (newest : ∀ other ∈ view, other.id < entry.id)
    (isOpen : ∀ request, entry.Answers request → IsOpenFor view entry request)
    (unlinked : entry.kind ≠ .requestEnd → entry.counterpart = none) :
    CrossReferenced (view.map (answeredBy entry) ++ [entry]) where
  before := by
    intro answer member request answers
    rcases mem_enter.mp member with ⟨answer, old, rfl⟩ | rfl
    · rw [id_answeredBy]
      exact referenced.before answer old request (answers_answeredBy.mp answers)
    · exact (isOpen request answers).before
  only := by
    intro first firstMember second secondMember request firstAnswers secondAnswers
    rcases mem_enter.mp firstMember with ⟨first, oldFirst, rfl⟩ | rfl <;>
      rcases mem_enter.mp secondMember with ⟨second, oldSecond, rfl⟩ | rfl
    · rw [answers_answeredBy] at firstAnswers secondAnswers
      rw [referenced.only first oldFirst second oldSecond request firstAnswers secondAnswers]
    · rw [answers_answeredBy] at firstAnswers
      exact absurd firstAnswers ((isOpen request secondAnswers).unanswered first oldFirst)
    · rw [answers_answeredBy] at secondAnswers
      exact absurd secondAnswers ((isOpen request firstAnswers).unanswered second oldSecond)
    · rfl
  latest := by
    rintro answer answerMember request answers start startMember isStart sameNumber ⟨after, before⟩
    rcases mem_enter.mp startMember with ⟨start, oldStart, rfl⟩ | rfl
    · rw [kind_answeredBy] at isStart
      rw [correlationId_answeredBy] at sameNumber
      rw [id_answeredBy] at after before
      rcases mem_enter.mp answerMember with ⟨answer, oldAnswer, rfl⟩ | rfl
      · rw [answers_answeredBy] at answers
        rw [correlationId_answeredBy] at sameNumber
        rw [id_answeredBy] at before
        exact referenced.latest answer oldAnswer request answers start oldStart isStart sameNumber
          ⟨after, before⟩
      · exact absurd ((isOpen request answers).latest start oldStart isStart sameNumber)
          (Nat.not_le.mpr after)
    · -- nothing is newer than the entry that has just come in
      rcases mem_enter.mp answerMember with ⟨answer, oldAnswer, rfl⟩ | rfl
      · rw [id_answeredBy] at before
        exact Nat.lt_asymm before (newest answer oldAnswer)
      · exact Nat.lt_irrefl _ before
  told := fun _ answerMember _ startMember =>
    told_enter referenced newest isOpen answerMember startMember
  found := fun _ startMember isStart _ =>
    found_enter referenced isOpen unlinked startMember isStart
  others := by
    intro shown member noStart noEnd
    rcases mem_enter.mp member with ⟨earlier, old, rfl⟩ | rfl
    · rw [kind_answeredBy] at noStart noEnd
      rw [answeredBy_of_kind_ne noStart]
      exact referenced.others earlier old noStart noEnd
    · exact unlinked noEnd

/-- In an empty view nothing refers to anything. -/
theorem nil : CrossReferenced [] where
  before := List.forall_mem_nil _
  only := List.forall_mem_nil _
  latest := List.forall_mem_nil _
  told := List.forall_mem_nil _
  found := List.forall_mem_nil _
  others := List.forall_mem_nil _

/-- Of an entry only its id, its kind, its number and its counterpart matter. -/
theorem map
    {change : Entry → Entry}
    (referenced : CrossReferenced view)
    (keeps : KeepsLinks change) :
    CrossReferenced (view.map change) where
  before := by
    simpa only [List.forall_mem_map, keeps.id_eq, keeps.answers_iff] using referenced.before
  only := by
    simp only [List.forall_mem_map, keeps.answers_iff]
    intro first firstMember second secondMember request answers same
    rw [referenced.only first firstMember second secondMember request answers same]
  latest := by
    simpa only [List.forall_mem_map, keeps.id_eq, keeps.kind_eq, keeps.number_eq,
      keeps.answers_iff] using referenced.latest
  told := by
    simpa only [List.forall_mem_map, keeps.id_eq, keeps.kind_eq, keeps.number_eq,
      keeps.counterpart_eq, keeps.answers_iff] using referenced.told
  found := by
    simp only [List.forall_mem_map, keeps.id_eq, keeps.kind_eq, keeps.counterpart_eq,
      keeps.number_eq]
    intro start member isStart id refers
    obtain ⟨before, answer, answerMember, same, answers, sameNumber⟩ :=
      referenced.found start member isStart id refers
    refine ⟨before, change answer, List.mem_map_of_mem answerMember, ?_, ?_, ?_⟩
    · rw [keeps.id_eq, same]
    · exact keeps.answers_iff.mpr answers
    · rw [keeps.number_eq, sameNumber]
  others := by
    simpa only [List.forall_mem_map, keeps.kind_eq, keeps.counterpart_eq] using referenced.others

/-- When old entries are dropped, an answer stays at least as long as its request. -/
theorem suffix
    {kept : List Entry}
    (referenced : CrossReferenced view)
    (increasing : view.Pairwise fun first second => first.id < second.id)
    (isSuffix : kept <:+ view) :
    CrossReferenced kept where
  before := fun answer member => referenced.before answer (isSuffix.mem member)
  only := fun first firstMember second secondMember =>
    referenced.only first (isSuffix.mem firstMember) second (isSuffix.mem secondMember)
  latest := fun answer answerMember request answers start startMember =>
    referenced.latest answer (isSuffix.mem answerMember) request answers start
      (isSuffix.mem startMember)
  told := fun answer answerMember start startMember =>
    referenced.told answer (isSuffix.mem answerMember) start (isSuffix.mem startMember)
  found := by
    intro start startMember isStart id refers
    obtain ⟨before, answer, answerMember, same, links⟩ :=
      referenced.found start (isSuffix.mem startMember) isStart id refers
    obtain ⟨dropped, rfl⟩ := isSuffix
    refine ⟨before, answer, ?_, same, links⟩
    rcases List.mem_append.mp answerMember with isDropped | isKept
    · -- the answer is younger than its request, so it is not dropped first
      have older := (List.pairwise_append.mp increasing).2.2 answer isDropped start startMember
      rw [same] at older
      exact absurd before (Nat.lt_asymm older)
    · exact isKept
  others := fun entry member => referenced.others entry (isSuffix.mem member)

end CrossReferenced

namespace Awaited

open Scrollback

variable {view : List Entry} {entry : Entry} {number : Option Nat} {request : EntryId}

theorem map
    {change : Entry → Entry}
    (awaited : Awaited view number request)
    (keeps : KeepsLinks change) :
    Awaited (view.map change) number request where
  unanswered := by
    simpa only [List.forall_mem_map, keeps.answers_iff] using awaited.unanswered
  latest := by
    simpa only [List.forall_mem_map, keeps.id_eq, keeps.kind_eq, keeps.number_eq]
      using awaited.latest
  isStart := by
    simpa only [List.forall_mem_map, keeps.id_eq, keeps.kind_eq, keeps.number_eq]
      using awaited.isStart

theorem suffix
    {kept : List Entry}
    (awaited : Awaited view number request)
    (isSuffix : kept <:+ view) :
    Awaited kept number request :=
  ⟨fun other member => awaited.unanswered other (isSuffix.mem member),
    fun start member => awaited.latest start (isSuffix.mem member),
    fun start member => awaited.isStart start (isSuffix.mem member)⟩

/-- A request that has just come in has no answer and is the latest of its number. -/
theorem of_entered
    (referenced : CrossReferenced view)
    (newest : ∀ other ∈ view, other.id < entry.id)
    (isStart : entry.kind = .requestStart) :
    Awaited (view.map (answeredBy entry) ++ [entry]) entry.correlationId entry.id where
  unanswered := by
    intro other member answers
    rcases mem_enter.mp member with ⟨other, old, rfl⟩ | rfl
    · -- an older answer cannot refer to the entry that has just come in
      rw [answers_answeredBy] at answers
      exact Nat.lt_asymm (referenced.before other old _ answers) (newest other old)
    · rw [answers.kind_eq] at isStart
      cases isStart
  latest := by
    intro start member _ _
    rcases mem_enter.mp member with ⟨start, old, rfl⟩ | rfl
    · rw [id_answeredBy]
      exact Nat.le_of_lt (newest start old)
    · exact Nat.le_refl _
  isStart := by
    intro start member sameId
    rcases mem_enter.mp member with ⟨start, old, rfl⟩ | rfl
    · rw [id_answeredBy] at sameId
      exact absurd sameId (Nat.ne_of_lt (newest start old))
    · exact ⟨isStart, rfl⟩

/-- A request still waits when an entry has come in that neither answers it nor takes its number. -/
theorem enter
    (awaited : Awaited view number request)
    (older : request < entry.id)
    (unrelated : ¬entry.Answers request)
    (otherNumber : entry.kind = .requestStart → entry.correlationId ≠ number) :
    Awaited (view.map (answeredBy entry) ++ [entry]) number request where
  unanswered := by
    intro other member answers
    rcases mem_enter.mp member with ⟨other, old, rfl⟩ | rfl
    · exact awaited.unanswered other old (answers_answeredBy.mp answers)
    · exact unrelated answers
  latest := by
    intro start member isStart sameNumber
    rcases mem_enter.mp member with ⟨start, old, rfl⟩ | rfl
    · rw [kind_answeredBy] at isStart
      rw [correlationId_answeredBy] at sameNumber
      rw [id_answeredBy]
      exact awaited.latest start old isStart sameNumber
    · exact absurd sameNumber (otherNumber isStart)
  isStart := by
    intro start member sameId
    rcases mem_enter.mp member with ⟨start, old, rfl⟩ | rfl
    · rw [id_answeredBy] at sameId
      rw [kind_answeredBy, correlationId_answeredBy]
      exact awaited.isStart start old sameId
    · exact absurd sameId.symm (Nat.ne_of_lt older)

end Awaited

/-- The requests and answers of a view refer to each other, and the requests that wait are those
whose answers may still come. -/
structure Linked (classifier : Classifier) (view : List Entry) : Prop
    extends CrossReferenced view where
  /-- No entry waits twice. -/
  distinct : (classifier.unanswered.map (·.2)).Nodup
  /-- The ids of waiting requests were handed out. -/
  waitingBelow : ∀ request ∈ classifier.unanswered, request.2 < classifier.nextId
  /-- The answers of waiting requests may still come. -/
  awaited : ∀ request ∈ classifier.unanswered, Awaited view (some request.1) request.2

namespace Linked

variable {classifier next : Classifier} {view : List Entry} {entry : Entry}

/-- In an empty view nothing refers to anything. -/
theorem nil (noneWaits : classifier.unanswered = []) : Linked classifier [] where
  toCrossReferenced := .nil
  distinct := by simp [noneWaits]
  waitingBelow := by simp [noneWaits]
  awaited := by simp [noneWaits]

/-- When the stream is reset no request waits. -/
theorem reset (linked : Linked classifier view) : Linked classifier.reset view where
  toCrossReferenced := linked.toCrossReferenced
  distinct := List.nodup_nil
  waitingBelow := List.forall_mem_nil _
  awaited := List.forall_mem_nil _

theorem map
    {change : Entry → Entry}
    (linked : Linked classifier view)
    (keeps : KeepsLinks change) :
    Linked classifier (view.map change) :=
  ⟨linked.toCrossReferenced.map keeps, linked.distinct, linked.waitingBelow,
    fun request waits => (linked.awaited request waits).map keeps⟩

theorem suffix
    {kept : List Entry}
    (linked : Linked classifier view)
    (increasing : view.Pairwise fun first second => first.id < second.id)
    (isSuffix : kept <:+ view) :
    Linked classifier kept :=
  ⟨linked.toCrossReferenced.suffix increasing isSuffix, linked.distinct, linked.waitingBelow,
    fun request waits => (linked.awaited request waits).suffix isSuffix⟩

/-- A request that an answer is linked to waits for it. -/
theorem isOpenFor
    (linked : Linked classifier view)
    (handsOut : classifier.HandsOut entry next)
    (correlates : classifier.Correlates entry next)
    {request : EntryId}
    (answers : entry.Answers request) :
    IsOpenFor view entry request := by
  have refers := answers.counterpart_eq
  cases correlates with
  | request number isStart sameNumber free waits =>
      rw [free] at refers
      cases refers
  | answer number isEnd sameNumber found waits =>
      rw [found] at refers
      have member := Unanswered.mem_of_find?_eq_some refers
      refine ⟨?_, ?_⟩
      · rw [sameNumber]
        exact linked.awaited _ member
      · rw [handsOut.id_eq]
        exact linked.waitingBelow _ member
  | other noStart noEnd free waits =>
      rw [free] at refers
      cases refers

/-- After an entry was handed out a request waits if it is that entry, or if it waited before and
the entry neither answers it nor takes its number. -/
theorem waits_cases
    (linked : Linked classifier view)
    (correlates : classifier.Correlates entry next)
    {request : Nat × EntryId}
    (member : request ∈ next.unanswered) :
    (request.2 = entry.id ∧ entry.kind = .requestStart ∧ entry.correlationId = some request.1) ∨
      (request ∈ classifier.unanswered ∧ ¬entry.Answers request.2 ∧
        (entry.kind = .requestStart → entry.correlationId ≠ some request.1)) := by
  cases correlates with
  | request number isStart sameNumber free waits =>
      rw [waits] at member
      rcases Unanswered.mem_of_mem_remember member with rfl | ⟨old, otherNumber⟩
      · exact .inl ⟨rfl, isStart, sameNumber⟩
      · refine .inr ⟨old, ?_, ?_⟩
        · rintro ⟨isEnd, _⟩
          rw [isStart] at isEnd
          cases isEnd
        · intro _ same
          rw [sameNumber] at same
          exact otherNumber (Option.some.inj same).symm
  | answer number isEnd sameNumber found waits =>
      rw [waits, Unanswered.mem_remove_iff] at member
      obtain ⟨old, otherNumber⟩ := member
      refine .inr ⟨old, ?_, fun isStart => absurd (isEnd.symm.trans isStart) nofun⟩
      -- no entry waits under two numbers, so the answer was linked to another one
      rintro ⟨_, refers⟩
      rw [found] at refers
      have taken := Unanswered.mem_of_find?_eq_some refers
      have same := List.inj_on_of_nodup_map linked.distinct old taken rfl
      rw [same] at otherNumber
      exact otherNumber rfl
  | other noStart noEnd free waits =>
      rw [waits] at member
      exact .inr ⟨member, fun answers => noEnd answers.kind_eq, fun isStart => absurd isStart noStart⟩

theorem distinct_enter
    (linked : Linked classifier view)
    (handsOut : classifier.HandsOut entry next)
    (correlates : classifier.Correlates entry next) :
    (next.unanswered.map (·.2)).Nodup := by
  have remaining : ∀ number, ((classifier.unanswered.remove number).map (·.2)).Nodup :=
    fun number => linked.distinct.sublist ((Unanswered.remove_sublist _ number).map _)
  cases correlates with
  | request number isStart sameNumber free waits =>
      rw [waits]
      apply List.Nodup.sublist ((Unanswered.bound_sublist _).map _)
      rw [List.map_cons, List.nodup_cons, List.mem_map]
      refine ⟨?_, remaining number⟩
      rintro ⟨old, member, same⟩
      have below := linked.waitingBelow old ((Unanswered.remove_sublist _ number).mem member)
      rw [same, handsOut.id_eq] at below
      exact Nat.lt_irrefl _ below
  | answer number isEnd sameNumber found waits =>
      rw [waits]
      exact remaining number
  | other noStart noEnd free waits =>
      rw [waits]
      exact linked.distinct

/-- Whatever the classifier hands out, requests and answers refer to each other when it has come
in. -/
theorem enter
    (linked : Linked classifier view)
    (newest : ∀ other ∈ view, other.id < entry.id)
    (handsOut : classifier.HandsOut entry next)
    (correlates : classifier.Correlates entry next) :
    Linked next (view.map (Scrollback.answeredBy entry) ++ [entry]) := by
  have older : ∀ request ∈ classifier.unanswered, request.2 < entry.id := by
    rw [handsOut.id_eq]
    exact linked.waitingBelow
  refine ⟨linked.toCrossReferenced.enter newest
    (fun _ answers => linked.isOpenFor handsOut correlates answers) correlates.unlinked,
    linked.distinct_enter handsOut correlates, ?_, ?_⟩
  · intro request waits
    rw [handsOut.nextId_eq, ← handsOut.id_eq]
    rcases linked.waits_cases correlates waits with ⟨same, _⟩ | ⟨old, _⟩
    · rw [same]
      exact Nat.lt_succ_self _
    · exact Nat.lt_succ_of_lt (older request old)
  · intro request waits
    rcases linked.waits_cases correlates waits with
      ⟨same, isStart, sameNumber⟩ | ⟨old, unrelated, otherNumber⟩
    · rw [same, ← sameNumber]
      exact Awaited.of_entered linked.toCrossReferenced newest isStart
    · exact (linked.awaited request old).enter (older request old) unrelated otherNumber

end Linked
end TailView
