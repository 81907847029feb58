import Mathlib.Data.List.ReduceOption
import TailView.Proofs.Correlation

/-!
# What a classifier hands out over time

A classifier is asked for the entries of lines and of messages, and is reset between streams.  The
entries that it hands out are numbered without gaps.  A line that continues a section follows the
head of that section, with nothing between the two that ends it.  Once a head was handed out the
stream is an error log until the next reset, and no request is looked for.
-/

namespace TailView
namespace Classifier

variable {classifier next : Classifier} {entry : Entry} {line : String} {id : EntryId}

/-! ## Calls and what they hand out -/

/-- What a classifier is asked for. -/
inductive Call
  /-- The entry of a line. -/
  | classify (line : String)
  /-- The entry of a message. -/
  | info (text : String)
  /-- To get ready for a new stream. -/
  | reset
deriving DecidableEq, Repr

/-- The entry that a call hands out, if it hands out one, and the state after it. -/
def answer (classifier : Classifier) : Call → Option Entry × Classifier
  | .classify line => (some (classifier.classify line).1, (classifier.classify line).2)
  | .info text => (some (classifier.info text).1, (classifier.info text).2)
  | .reset => (none, classifier.reset)

/-- The state after some calls. -/
def after (classifier : Classifier) (calls : List Call) : Classifier :=
  calls.foldl (fun classifier call => (classifier.answer call).2) classifier

/-- What calls hand out, in order; a reset hands out nothing. -/
abbrev Record := List (Option Entry)

/-- What calls hand out, in order. -/
def record (classifier : Classifier) : List Call → Record
  | [] => []
  | call :: rest => (classifier.answer call).1 :: (classifier.answer call).2.record rest

theorem after_append (classifier : Classifier) (first second : List Call) :
    classifier.after (first ++ second) = (classifier.after first).after second :=
  List.foldl_append

theorem record_append (classifier : Classifier) (first second : List Call) :
    classifier.record (first ++ second) =
      classifier.record first ++ (classifier.after first).record second := by
  induction first generalizing classifier with
  | nil => rfl
  | cons call rest inductionHypothesis =>
      rw [List.cons_append, record, inductionHypothesis, record]
      rfl

theorem record_concat (classifier : Classifier) (calls : List Call) (call : Call) :
    classifier.record (calls ++ [call]) =
      classifier.record calls ++ [((classifier.after calls).answer call).1] :=
  record_append classifier calls [call]

theorem after_concat (classifier : Classifier) (calls : List Call) (call : Call) :
    classifier.after (calls ++ [call]) = ((classifier.after calls).answer call).2 :=
  after_append classifier calls [call]

/-- Everything that was handed out was handed out by one of the calls. -/
theorem exists_call_of_record_eq
    {calls : List Call}
    {before later : Record}
    {outcome : Option Entry}
    (split : classifier.record calls = before ++ outcome :: later) :
    ∃ earlier call, before = classifier.record earlier ∧
      outcome = ((classifier.after earlier).answer call).1 := by
  induction calls generalizing classifier before with
  | nil => exact absurd split (by simp [record])
  | cons call rest inductionHypothesis =>
      cases before with
      | nil => exact ⟨[], call, rfl, (List.cons.inj split).1.symm⟩
      | cons first others =>
          obtain ⟨isFirst, splitRest⟩ := List.cons.inj split
          obtain ⟨earlier, found, rfl, isOutcome⟩ := inductionHypothesis splitRest
          refine ⟨call :: earlier, found, ?_, isOutcome⟩
          rw [record, isFirst]

/-! ## What one call can do -/

/-- What an entry does to the kind of the stream. -/
structure Turns (classifier : Classifier) (entry : Entry) (next : Classifier) : Prop where
  /-- After a section the stream is an error log. -/
  section_eq : entry.kind = .sectionHead → next.stream = .error
  /-- A request is found in a stream that is none, which becomes a request log. -/
  request_eq : entry.kind = .requestStart → classifier.stream ≠ .error ∧ next.stream = .request
  /-- Other entries leave the stream what it is. -/
  other_eq : entry.kind ≠ .sectionHead → entry.kind ≠ .requestStart →
    next.stream = classifier.stream

theorem classifyFresh_turns (classifier : Classifier) (line : String) :
    classifier.Turns (classifier.classifyFresh line).1 (classifier.classifyFresh line).2 := by
  unfold classifyFresh
  simp only
  split
  · exact ⟨fun _ => rfl, nofun, fun noSection => absurd rfl noSection⟩
  · split
    · next start found =>
        have noErrorLog : classifier.stream ≠ .error := by
          intro isErrorLog
          rw [if_pos isErrorLog] at found
          cases found
        exact ⟨nofun, fun _ => ⟨noErrorLog, rfl⟩, fun _ noRequest => absurd rfl noRequest⟩
    · split
      · exact ⟨nofun, nofun, fun _ _ => rfl⟩
      · exact ⟨nofun, nofun, fun _ _ => rfl⟩

/-- What a call hands out, and the state after it. -/
inductive Step (classifier : Classifier) : Call → Option Entry → Classifier → Prop
  /-- A line continues the open section, and nothing changes. -/
  | continues {line : String} {id : EntryId} :
      isContinuation line.toList = true → classifier.openSection = some id →
      Step classifier (.classify line) (some { id, kind := .continuation, text := line }) classifier
  /-- A line is filed. -/
  | files {line : String} {entry : Entry} {next : Classifier} :
      classifier.continued? line = none → classifier.Files line entry next →
      classifier.Correlates entry next → classifier.Turns entry next →
      Step classifier (.classify line) (some entry) next
  /-- A message takes the next id. -/
  | informs (text : String) :
      Step classifier (.info text) (some (classifier.info text).1) (classifier.info text).2
  /-- Everything but the rule and the next id is forgotten. -/
  | resets : Step classifier .reset none classifier.reset

theorem step_answer (classifier : Classifier) (call : Call) :
    classifier.Step call (classifier.answer call).1 (classifier.answer call).2 := by
  cases call with
  | classify line =>
      rw [answer, classify]
      cases continued : classifier.continued? line with
      | some id =>
          obtain ⟨continues, isOpen⟩ := continued?_eq_some_iff.mp continued
          exact .continues continues isOpen
      | none =>
          exact .files continued (classifyFresh_files classifier line)
            (classifyFresh_correlates classifier line) (classifyFresh_turns classifier line)
  | info text => exact .informs text
  | reset => exact .resets

theorem exists_step_of_answer
    {call : Call}
    (handsOut : (classifier.answer call).1 = some entry) :
    ∃ next, classifier.Step call (some entry) next :=
  ⟨_, handsOut ▸ classifier.step_answer call⟩

/-! ## What went before -/

/-- One entry of a record is of some sort, and everything after it is of another, without a reset in
between. -/
def Since (first others : Entry → Prop) (record : Record) : Prop :=
  ∃ earlier entry between, record = earlier ++ some entry :: between ∧ first entry ∧
    ∀ outcome ∈ between, ∃ other, outcome = some other ∧ others other

theorem not_since_nil {first others : Entry → Prop} : ¬Since first others [] := by
  rintro ⟨earlier, entry, between, split, -⟩
  simp at split

/-- The last entry is of the first sort, or it is of the other and the condition held before it. -/
theorem since_concat_iff
    {first others : Entry → Prop}
    {record : Record}
    {outcome : Option Entry} :
    Since first others (record ++ [outcome]) ↔
      ∃ entry, outcome = some entry ∧ (first entry ∨ Since first others record ∧ others entry) := by
  constructor
  · rintro ⟨earlier, start, between, split, isFirst, areOthers⟩
    rcases List.eq_nil_or_concat' between with rfl | ⟨before, last, rfl⟩
    · obtain ⟨-, same⟩ := List.append_inj' split rfl
      exact ⟨start, List.singleton_inj.mp same, .inl isFirst⟩
    · rw [← List.cons_append, ← List.append_assoc] at split
      obtain ⟨rfl, same⟩ := List.append_inj' split rfl
      rw [List.forall_mem_append, List.forall_mem_singleton] at areOthers
      obtain ⟨areBefore, other, isLast, isOther⟩ := areOthers
      exact ⟨other, (List.singleton_inj.mp same).trans isLast,
        .inr ⟨⟨earlier, start, before, rfl, isFirst, areBefore⟩, isOther⟩⟩
  · rintro ⟨entry, rfl, isFirst | ⟨⟨earlier, start, between, rfl, isFirst, areOthers⟩, isOther⟩⟩
    · exact ⟨record, entry, [], rfl, isFirst, nofun⟩
    · refine ⟨earlier, start, between ++ [some entry], by simp, isFirst, ?_⟩
      rw [List.forall_mem_append, List.forall_mem_singleton]
      exact ⟨areOthers, entry, rfl, isOther⟩

/-- The entries that were handed out under an id of their own. -/
def handedOut (record : Record) : List Entry :=
  record.reduceOption.filter fun entry => entry.kind ≠ .continuation

theorem handedOut_append (first second : Record) :
    handedOut (first ++ second) = handedOut first ++ handedOut second := by
  rw [handedOut, List.reduceOption_append, List.filter_append]
  rfl

theorem handedOut_of_stored (stored : entry.kind ≠ .continuation) :
    handedOut [some entry] = [entry] := by
  simp [handedOut, List.reduceOption, stored]

/-- What a classifier knows of its stream agrees with what it has handed out. -/
structure Traces (record : Record) (classifier : Classifier) : Prop where
  /-- The ids are numbered without gaps. -/
  ids_eq : (handedOut record).map (·.id) = List.range classifier.nextId
  /-- The open section is the last one, and nothing after it ends it. -/
  opened : ∀ id, classifier.openSection = some id →
    Since (fun entry => entry.kind = .sectionHead ∧ entry.id = id)
      (fun entry => entry.kind = .info ∨ entry.kind = .continuation) record
  /-- The stream is an error log since its first section. -/
  errorLog_iff : classifier.stream = .error ↔
    Since (fun entry => entry.kind = .sectionHead) (fun _ => True) record

namespace Traces

variable {record : Record} {call : Call} {outcome : Option Entry}

theorem ids_concat
    (traces : Traces record classifier)
    (step : classifier.Step call outcome next) :
    (handedOut (record ++ [outcome])).map (·.id) = List.range next.nextId := by
  have oneMore : ∀ entry, classifier.HandsOut entry next →
      (handedOut (record ++ [some entry])).map (·.id) = List.range next.nextId := by
    intro entry handsOut
    rw [handedOut_append, handedOut_of_stored handsOut.stored, List.map_append, traces.ids_eq,
      handsOut.nextId_eq, List.range_succ, List.map_singleton, handsOut.id_eq]
  have noMore : ∀ {outcome}, handedOut [outcome] = [] →
      (handedOut (record ++ [outcome])).map (·.id) = List.range classifier.nextId := by
    intro outcome nothing
    rw [handedOut_append, nothing, List.append_nil, traces.ids_eq]
  cases step with
  | continues => exact noMore rfl
  | files _ files => exact oneMore _ files.toHandsOut
  | informs text => exact oneMore _ (info_handsOut classifier text)
  | resets => exact noMore rfl

theorem opened_concat
    (traces : Traces record classifier)
    (step : classifier.Step call outcome next)
    (isOpen : next.openSection = some id) :
    Since (fun entry => entry.kind = .sectionHead ∧ entry.id = id)
      (fun entry => entry.kind = .info ∨ entry.kind = .continuation) (record ++ [outcome]) := by
  rw [since_concat_iff]
  cases step with
  | continues => exact ⟨_, rfl, .inr ⟨traces.opened id isOpen, .inr rfl⟩⟩
  | @files _ entry _ _ files =>
      refine ⟨entry, rfl, .inl ?_⟩
      cases isSection : entry.isSection with
      | true =>
          rw [files.opens isSection] at isOpen
          exact ⟨by simpa [Entry.isSection] using isSection, Option.some.inj isOpen⟩
      | false =>
          rw [files.closes isSection] at isOpen
          cases isOpen
  | informs text => exact ⟨_, rfl, .inr ⟨traces.opened id isOpen, .inl rfl⟩⟩
  | resets => cases isOpen

theorem errorLog_concat_iff
    (traces : Traces record classifier)
    (step : classifier.Step call outcome next) :
    next.stream = .error ↔
      Since (fun entry => entry.kind = .sectionHead) (fun _ => True) (record ++ [outcome]) := by
  have unchanged : ∀ {entry}, entry.kind ≠ .sectionHead → (classifier.stream = .error ↔
      Since (fun entry => entry.kind = .sectionHead) (fun _ => True) (record ++ [some entry])) := by
    intro entry noSection
    rw [traces.errorLog_iff, since_concat_iff]
    simp [noSection]
  cases step with
  | continues => exact unchanged nofun
  | @files _ entry _ _ _ _ turns =>
      by_cases isSection : entry.kind = .sectionHead
      · rw [since_concat_iff]
        exact iff_of_true (turns.section_eq isSection) ⟨entry, rfl, .inl isSection⟩
      · rw [← unchanged isSection]
        by_cases isRequest : entry.kind = .requestStart
        · obtain ⟨noErrorLog, requestLog⟩ := turns.request_eq isRequest
          rw [requestLog]
          exact iff_of_false nofun noErrorLog
        · rw [turns.other_eq isSection isRequest]
  | informs text => exact unchanged nofun
  | resets =>
      refine iff_of_false nofun ?_
      rw [since_concat_iff]
      rintro ⟨_, nothing, -⟩
      cases nothing

/-- Every call keeps the agreement. -/
theorem concat
    (traces : Traces record classifier)
    (step : classifier.Step call outcome next) :
    Traces (record ++ [outcome]) next :=
  ⟨traces.ids_concat step, fun _ isOpen => traces.opened_concat step isOpen,
    traces.errorLog_concat_iff step⟩

end Traces

/-- Whatever a new classifier is asked for, it knows its stream. -/
theorem traces_record (rule : SectionRule) (calls : List Call) :
    Traces (record { rule } calls) (after { rule } calls) := by
  induction calls using List.reverseRecOn with
  | nil => exact ⟨rfl, nofun, iff_of_false nofun not_since_nil⟩
  | append_singleton before call inductionHypothesis =>
      rw [record_concat, after_concat]
      exact inductionHypothesis.concat (step_answer _ call)

/-! ## Runs -/

theorem Since.mono
    {first others sameFirst sameOthers : Entry → Prop}
    {record : Record}
    (since : Since first others record)
    (firstImplies : ∀ entry, first entry → sameFirst entry)
    (othersImply : ∀ entry, others entry → sameOthers entry) :
    Since sameFirst sameOthers record := by
  obtain ⟨earlier, start, between, split, isFirst, areOthers⟩ := since
  refine ⟨earlier, start, between, split, firstImplies start isFirst, ?_⟩
  intro outcome member
  obtain ⟨other, isEntry, isOther⟩ := areOthers outcome member
  exact ⟨other, isEntry, othersImply other isOther⟩

/-- An answer is recognized in a line that belongs to no section, opens none and is no request. -/
theorem kind_classify_eq_requestEnd_iff
    (fresh : classifier.continued? line = none)
    (unmarked : classifier.rule.marker? line.toList = none)
    (noRequest : classifier.stream = .error ∨ Request.start? line.toList = none) :
    (classifier.classify line).1.kind = .requestEnd ↔ (Request.end? line.toList).isSome := by
  have noStart :
      (if classifier.stream = .error then none else Request.start? line.toList) = none := by
    split
    · rfl
    · next noErrorLog => exact noRequest.resolve_left noErrorLog
  rw [classify, fresh]
  simp only [classifyFresh, unmarked, noStart]
  cases Request.end? line.toList <;> simp

/-- Whatever a classifier knows, there is a line that is an answer. -/
theorem exists_kind_classify_eq_requestEnd (classifier : Classifier) :
    ∃ line, (classifier.classify line).1.kind = .requestEnd := by
  have fresh : classifier.continued? "x [1] <- 200 ok" = none :=
    continued?_eq_none_iff.mpr fun _ => by decide
  have unmarked : classifier.rule.marker? "x [1] <- 200 ok".toList = none := by
    cases classifier.rule <;> decide +kernel
  have noStart : Request.start? "x [1] <- 200 ok".toList = none := by decide +kernel
  have isAnswer : (Request.end? "x [1] <- 200 ok".toList).isSome := by decide +kernel
  exact ⟨_, (kind_classify_eq_requestEnd_iff fresh unmarked (.inr noStart)).mpr isAnswer⟩

/-- A continuation is handed out for a continuation line while a section is open. -/
theorem kind_answer_eq_continuation_iff (classifier : Classifier) (call : Call) :
    (∃ entry, (classifier.answer call).1 = some entry ∧ entry.kind = .continuation) ↔
      ∃ line, call = .classify line ∧ classifier.openSection.isSome ∧
        isContinuation line.toList = true := by
  have step := classifier.step_answer call
  generalize (classifier.answer call).1 = outcome, (classifier.answer call).2 = next at step
  cases step with
  | @continues line _ continues isOpen =>
      refine iff_of_true ⟨_, rfl, rfl⟩ ⟨line, rfl, ?_, continues⟩
      rw [isOpen]
      rfl
  | @files line entry _ fresh files =>
      refine iff_of_false ?_ ?_
      · rintro ⟨_, ⟨⟩, isContinuation⟩
        exact files.stored isContinuation
      · rintro ⟨_, ⟨⟩, isOpen, continues⟩
        rw [continued?_eq_none_iff.mp fresh isOpen] at continues
        cases continues
  | informs text =>
      refine iff_of_false ?_ nofun
      rintro ⟨_, ⟨⟩, isContinuation⟩
      cases isContinuation
  | resets => exact iff_of_false nofun nofun

section Answer

variable {call : Call} (handsOut : (classifier.answer call).1 = some entry)
include handsOut

theorem openSection_of_continuation (isContinuation : entry.kind = .continuation) :
    classifier.openSection = some entry.id := by
  obtain ⟨next, step⟩ := exists_step_of_answer handsOut
  cases step with
  | continues _ isOpen => exact isOpen
  | files _ files => exact absurd isContinuation files.stored
  | informs text => cases isContinuation

theorem stream_ne_error_of_request (isRequest : entry.kind = .requestStart) :
    classifier.stream ≠ .error := by
  obtain ⟨next, step⟩ := exists_step_of_answer handsOut
  cases step with
  | continues => cases isRequest
  | files _ _ _ turns => exact (turns.request_eq isRequest).1
  | informs text => cases isRequest

end Answer

/-- An error log stays one until a reset. -/
theorem stream_answer_of_errorLog
    {call : Call}
    (goesOn : call ≠ .reset)
    (errorLog : classifier.stream = .error) :
    (classifier.answer call).2.stream = .error := by
  have step := classifier.step_answer call
  generalize (classifier.answer call).1 = outcome, (classifier.answer call).2 = next at step
  cases step with
  | continues => exact errorLog
  | @files _ entry _ _ _ _ turns =>
      by_cases isSection : entry.kind = .sectionHead
      · exact turns.section_eq isSection
      · have noRequest : entry.kind ≠ .requestStart :=
          fun isRequest => (turns.request_eq isRequest).1 errorLog
        rw [turns.other_eq isSection noRequest, errorLog]
  | informs text => exact errorLog
  | resets => exact absurd rfl goesOn

/-- A request log stays one until a reset or a section. -/
theorem reset_or_section_of_requestLog
    {call : Call}
    (requestLog : classifier.stream = .request)
    (changes : (classifier.answer call).2.stream ≠ .request) :
    call = .reset ∨ ∃ head, (classifier.answer call).1 = some head ∧ head.kind = .sectionHead := by
  have step := classifier.step_answer call
  generalize (classifier.answer call).1 = outcome, (classifier.answer call).2 = next at step changes
  cases step with
  | continues => exact absurd requestLog changes
  | @files _ entry _ _ _ _ turns =>
      by_cases isSection : entry.kind = .sectionHead
      · exact .inr ⟨entry, rfl, isSection⟩
      · by_cases isRequest : entry.kind = .requestStart
        · exact absurd (turns.request_eq isRequest).2 changes
        · rw [turns.other_eq isSection isRequest] at changes
          exact absurd requestLog changes
  | informs text => exact absurd requestLog changes
  | resets => exact .inl rfl

/-- What a new classifier has handed out, and what it does next, for any calls. -/
structure Orderly (record : Record) (classifier : Classifier) : Prop where
  /-- The entries have the ids from zero on, in order; only continuations have no id of their
  own. -/
  ids_eq : (handedOut record).map (·.id) = List.range classifier.nextId
  /-- A continuation is handed out for a continuation line while a section is open. -/
  continues_iff : ∀ call,
    (∃ entry, (classifier.answer call).1 = some entry ∧ entry.kind = .continuation) ↔
      ∃ line, call = .classify line ∧ classifier.openSection.isSome ∧
        isContinuation line.toList = true
  /-- A continuation has the id of the last section, and since then there were only messages and
  other continuations. -/
  continued : ∀ before entry later, record = before ++ some entry :: later →
    entry.kind = .continuation →
    Since (fun head => head.kind = .sectionHead ∧ head.id = entry.id)
      (fun other => other.kind = .info ∨ other.kind = .continuation) before
  /-- A section is open only in an error log. -/
  errorLog_of_open : classifier.openSection.isSome → classifier.stream = .error
  /-- Between a section and a later request there was a reset. -/
  reset_between : ∀ before head between start later,
    record = before ++ some head :: (between ++ some start :: later) →
    head.kind = .sectionHead → start.kind = .requestStart → none ∈ between
  /-- Answers are recognized in an error log, in any line that belongs to no section and opens
  none. -/
  answers_iff : classifier.stream = .error → ∀ line, classifier.continued? line = none →
    ¬classifier.rule.Marked line →
    ((classifier.classify line).1.kind = .requestEnd ↔ (Request.end? line.toList).isSome)
  /-- At any time some line is an answer. -/
  exists_answer : ∃ line, (classifier.classify line).1.kind = .requestEnd
  /-- An error log stays one until a reset. -/
  errorLog_stays : ∀ call, call ≠ .reset → classifier.stream = .error →
    (classifier.answer call).2.stream = .error
  /-- A request log stays one until a reset or a section. -/
  requestLog_stays : ∀ call, classifier.stream = .request →
    (classifier.answer call).2.stream ≠ .request →
    call = .reset ∨ ∃ head, (classifier.answer call).1 = some head ∧ head.kind = .sectionHead

/-- Whatever a new classifier is asked for, in either mode: entries are numbered without gaps,
continuations follow their section, and an error log stays one until it is reset. -/
theorem orderly_record (rule : SectionRule) (calls : List Call) :
    Orderly (record { rule } calls) (after { rule } calls) where
  ids_eq := (traces_record rule calls).ids_eq
  continues_iff := kind_answer_eq_continuation_iff _
  continued := by
    intro before entry later split isContinuation
    obtain ⟨earlier, call, rfl, handsOut⟩ := exists_call_of_record_eq split
    have isOpen := openSection_of_continuation handsOut.symm isContinuation
    exact (traces_record rule earlier).opened entry.id isOpen
  errorLog_of_open := by
    intro isOpen
    obtain ⟨id, isOpen⟩ := Option.isSome_iff_exists.mp isOpen
    have traces := traces_record rule calls
    exact traces.errorLog_iff.mpr
      ((traces.opened id isOpen).mono (fun _ isHead => isHead.1) fun _ _ => trivial)
  reset_between := by
    intro before head between start later split isSection isRequest
    rw [← List.cons_append, ← List.append_assoc] at split
    obtain ⟨earlier, call, recorded, handsOut⟩ := exists_call_of_record_eq split
    have noErrorLog := stream_ne_error_of_request handsOut.symm isRequest
    rw [Ne, (traces_record rule earlier).errorLog_iff, ← recorded] at noErrorLog
    by_contra noReset
    refine noErrorLog ⟨before, head, between, rfl, isSection, ?_⟩
    intro outcome member
    cases outcome with
    | none => exact absurd member noReset
    | some other => exact ⟨other, rfl, trivial⟩
  answers_iff := by
    intro errorLog line fresh unmarked
    have noMarker := Option.not_isSome_iff_eq_none.mp
      ((SectionRule.marker?_isSome_iff _ line).not.mpr unmarked)
    exact kind_classify_eq_requestEnd_iff fresh noMarker (.inl errorLog)
  exists_answer := exists_kind_classify_eq_requestEnd _
  errorLog_stays := fun _ goesOn errorLog => stream_answer_of_errorLog goesOn errorLog
  requestLog_stays := fun _ requestLog changes =>
    reset_or_section_of_requestLog requestLog changes

end Classifier
end TailView
