import TailView.Proofs.Stream

/-!
# Waiting requests form a queue

The requests without an answer are kept in no particular order, and the oldest one is searched for
when there are too many.  They are the content of a queue: a request goes to its end, in the place
of an earlier one with the same number, an answer takes its request out, and a queue that is too
long loses its head.  So the order in which the requests are listed never shows.
-/

namespace TailView

/-! ## The order of the list does not matter -/

namespace Unanswered

variable {requests : Unanswered} {request : Nat × EntryId} {number : Nat} {id : EntryId}

/-- If no number waits twice, a request is found exactly when it waits. -/
theorem find?_eq_some_iff (numbers : (requests.map (·.1)).Nodup) :
    requests.find? number = some id ↔ (number, id) ∈ requests := by
  refine ⟨mem_of_find?_eq_some, ?_⟩
  intro member
  have present : ∃ request ∈ requests, decide (request.1 = number) = true :=
    ⟨(number, id), member, decide_eq_true rfl⟩
  obtain ⟨request, isFound⟩ := Option.isSome_iff_exists.mp (List.find?_isSome.mpr present)
  have sameNumber : request.1 = number := by simpa using List.find?_some isFound
  have same : request = (number, id) :=
    List.inj_on_of_nodup_map numbers (List.mem_of_find?_eq_some isFound) member sameNumber
  rw [find?, isFound, same]
  rfl

/-- What is found does not depend on the order. -/
theorem find?_eq_of_perm
    {order : Unanswered}
    (numbers : (requests.map (·.1)).Nodup)
    (perm : order.Perm requests)
    (number : Nat) :
    order.find? number = requests.find? number := by
  apply Option.ext
  intro id
  rw [find?_eq_some_iff ((perm.map _).nodup_iff.mpr numbers), find?_eq_some_iff numbers,
    perm.mem_iff]

/-- If no other request has the number of the first one, the others are left. -/
theorem remove_head (alone : request.1 ∉ requests.map (·.1)) :
    remove (request :: requests) request.1 = requests := by
  rw [remove, List.filter_cons_of_neg (by simp), List.filter_eq_self]
  intro other member
  refine decide_eq_true fun same => alone ?_
  rw [← same]
  exact List.mem_map_of_mem member

/-- Of two requests one is the older one, and its entry did not come after the others. -/
theorem older_spec (first second : Nat × EntryId) :
    (older first second = first ∨ older first second = second) ∧
      (older first second).2 ≤ first.2 ∧ (older first second).2 ≤ second.2 := by
  unfold older
  split
  · next later => exact ⟨.inr rfl, Nat.le_of_lt later, Nat.le_refl _⟩
  · next notLater => exact ⟨.inl rfl, Nat.le_refl _, Nat.le_of_not_lt notLater⟩

theorem foldl_older_spec (first : Nat × EntryId) (rest : Unanswered) :
    rest.foldl older first ∈ first :: rest ∧
      ∀ request ∈ first :: rest, (rest.foldl older first).2 ≤ request.2 := by
  induction rest generalizing first with
  | nil => simp
  | cons next others inductionHypothesis =>
      obtain ⟨isOne, lower, lowerNext⟩ := older_spec first next
      obtain ⟨member, least⟩ := inductionHypothesis (older first next)
      rw [List.forall_mem_cons] at least
      rw [List.foldl_cons, List.forall_mem_cons, List.forall_mem_cons]
      refine ⟨?_, least.1.trans lower, least.1.trans lowerNext, least.2⟩
      rcases List.mem_cons.mp member with same | inOthers
      · rcases isOne with isFirst | isNext
        · rw [same, isFirst]
          exact List.mem_cons_self
        · rw [same, isNext]
          exact List.mem_cons_of_mem _ List.mem_cons_self
      · exact List.mem_cons_of_mem _ (List.mem_cons_of_mem _ inOthers)

/-- The request whose entry came before all others is the oldest one. -/
theorem oldest?_eq
    (entries : (requests.map (·.2)).Nodup)
    (member : request ∈ requests)
    (least : ∀ other ∈ requests, request.2 ≤ other.2) :
    requests.oldest? = some request := by
  cases requests with
  | nil => exact absurd member List.not_mem_nil
  | cons first rest =>
      obtain ⟨isMember, isLeast⟩ := foldl_older_spec first rest
      have sameEntry : (rest.foldl older first).2 = request.2 :=
        Nat.le_antisymm (isLeast request member) (least _ isMember)
      exact congrArg some (List.inj_on_of_nodup_map entries isMember member sameEntry)

end Unanswered

/-! ## The queue -/

/-- Requests in the order of their arrival, the first one at the head. -/
abbrev RequestQueue := List (Nat × EntryId)

namespace RequestQueue

open Unanswered

variable {queue : RequestQueue} {requests : Unanswered} {request : Nat × EntryId} {number : Nat}
  {id nextId : EntryId}

/-- The queue without the request of a given number. -/
def leave (queue : RequestQueue) (number : Nat) : RequestQueue :=
  queue.filter fun request => request.1 ≠ number

/-- The queue with a new request at its end, in the place of an earlier one with its number. -/
def extend (queue : RequestQueue) (number : Nat) (id : EntryId) : RequestQueue :=
  queue.leave number ++ [(number, id)]

/-- The queue with a new request at its end; if there are too many then, the head goes. -/
def join (queue : RequestQueue) (number : Nat) (id : EntryId) : RequestQueue :=
  if 4096 < (queue.extend number id).length then (queue.extend number id).tail
  else queue.extend number id

/-- What an entry or a reset does to the queue. -/
def observe (queue : RequestQueue) : Option Entry → RequestQueue
  | none => []
  | some entry =>
      match entry.kind, entry.correlationId with
      | .requestStart, some number => queue.join number entry.id
      | .requestEnd, some number => queue.leave number
      | _, _ => queue

/-- Entries that are neither requests nor answers leave the queue as it is. -/
theorem observe_of_other
    {entry : Entry}
    (noStart : entry.kind ≠ .requestStart)
    (noEnd : entry.kind ≠ .requestEnd) :
    queue.observe (some entry) = queue := by
  rw [observe]
  split
  · next isStart _ => exact absurd isStart noStart
  · next isEnd _ => exact absurd isEnd noEnd
  · rfl

/-- The queue after all that was handed out. -/
def ofRecord (record : Classifier.Record) : RequestQueue := record.foldl observe []

/-- What is handed out next changes the queue. -/
theorem ofRecord_concat (record : Classifier.Record) (outcome : Option Entry) :
    ofRecord (record ++ [outcome]) = (ofRecord record).observe outcome :=
  List.foldl_concat ..

/-- A queue in which the requests are in the order of their entries, with one for each number. -/
structure InTurn (queue : RequestQueue) (nextId : EntryId) : Prop where
  /-- The entries came in this order. -/
  ascending : queue.Pairwise fun first second => first.2 < second.2
  /-- No number waits twice. -/
  numbers : (queue.map (·.1)).Nodup
  /-- The entries were handed out. -/
  below : ∀ request ∈ queue, request.2 < nextId
  /-- There are not too many. -/
  length_le : queue.length ≤ 4096

namespace InTurn

theorem nil (nextId : EntryId) : InTurn [] nextId :=
  ⟨.nil, List.nodup_nil, nofun, Nat.zero_le _⟩

/-- Ids that are handed out later change nothing. -/
theorem mono {later : EntryId} (inTurn : InTurn queue nextId) (le : nextId ≤ later) :
    InTurn queue later :=
  { inTurn with below := fun request member => (inTurn.below request member).trans_le le }

theorem entries (inTurn : InTurn queue nextId) : (queue.map (·.2)).Nodup :=
  List.pairwise_map.mpr (inTurn.ascending.imp Nat.ne_of_lt)

theorem leave (inTurn : InTurn queue nextId) (number : Nat) :
    InTurn (queue.leave number) nextId where
  ascending := inTurn.ascending.sublist List.filter_sublist
  numbers := inTurn.numbers.sublist (List.filter_sublist.map _)
  below := fun request member => inTurn.below request (List.mem_of_mem_filter member)
  length_le := (List.length_filter_le _ _).trans inTurn.length_le

end InTurn

theorem mem_leave_iff : request ∈ queue.leave number ↔ request ∈ queue ∧ request.1 ≠ number := by
  simp [leave]

/-- A request is in the queue when it has come in just now, or was in it under another number. -/
theorem mem_of_mem_join (member : request ∈ queue.join number id) :
    request = (number, id) ∨ request ∈ queue ∧ request.1 ≠ number := by
  have inExtended : request ∈ queue.extend number id := by
    unfold join at member
    split at member
    · exact List.mem_of_mem_tail member
    · exact member
  rcases List.mem_append.mp inExtended with old | new
  · exact .inr (mem_leave_iff.mp old)
  · exact .inl (List.mem_singleton.mp new)

/-- The request that has come in just now is not the one that goes. -/
theorem mem_join_self (queue : RequestQueue) (number : Nat) (id : EntryId) :
    (number, id) ∈ queue.join number id := by
  unfold join
  split
  · next tooMany =>
      have others : queue.leave number ≠ [] := by
        intro nothing
        rw [extend, nothing] at tooMany
        simp at tooMany
      rw [extend, List.tail_append_of_ne_nil others]
      exact List.mem_append_right _ (List.mem_singleton_self _)
  · exact List.mem_append_right _ (List.mem_singleton_self _)

section Extend

variable (inTurn : InTurn queue id) (number : Nat)
include inTurn

theorem ascending_extend :
    (queue.extend number id).Pairwise fun first second => first.2 < second.2 := by
  rw [extend, List.pairwise_append]
  refine ⟨(inTurn.leave number).ascending, List.pairwise_singleton _ _, ?_⟩
  intro first member second isNew
  rw [List.mem_singleton.mp isNew]
  exact (inTurn.leave number).below first member

theorem numbers_extend : ((queue.extend number id).map (·.1)).Nodup := by
  rw [extend, List.map_append, List.nodup_append]
  refine ⟨(inTurn.leave number).numbers, List.nodup_singleton _, ?_⟩
  rintro other isOther _ isNew rfl
  obtain ⟨request, member, same⟩ := List.mem_map.mp isOther
  exact (mem_leave_iff.mp member).2 (same.trans (List.mem_singleton.mp isNew))

theorem InTurn.join : InTurn (queue.join number id) (id + 1) where
  ascending := by
    unfold RequestQueue.join
    split
    · exact (ascending_extend inTurn number).tail
    · exact ascending_extend inTurn number
  numbers := by
    unfold RequestQueue.join
    split
    · rw [List.map_tail]
      exact (numbers_extend inTurn number).tail
    · exact numbers_extend inTurn number
  below := by
    intro request member
    rcases mem_of_mem_join member with rfl | ⟨old, -⟩
    · exact Nat.lt_succ_self id
    · exact Nat.lt_succ_of_lt (inTurn.below request old)
  length_le := by
    have length_eq : (queue.extend number id).length = (queue.leave number).length + 1 :=
      List.length_append
    have shorter := (inTurn.leave number).length_le
    unfold RequestQueue.join
    split
    · rw [List.length_tail]
      omega
    · next notTooMany => exact Nat.le_of_not_lt notTooMany

end Extend

/-! ## The requests are the content of the queue -/

/-- If there are too many requests the one that goes is the head of the queue. -/
theorem bound_perm
    (ascending : queue.Pairwise fun first second => first.2 < second.2)
    (numbers : (queue.map (·.1)).Nodup)
    (perm : requests.Perm queue) :
    requests.bound.Perm (if 4096 < queue.length then queue.tail else queue) := by
  have entries : (requests.map (·.2)).Nodup :=
    (perm.map _).nodup_iff.mpr (List.pairwise_map.mpr (ascending.imp Nat.ne_of_lt))
  rw [bound, perm.length_eq, limit]
  split
  · next tooMany =>
      cases queue with
      | nil => exact absurd tooMany (by decide)
      | cons head rest =>
          rw [List.pairwise_cons] at ascending
          rw [List.map_cons, List.nodup_cons] at numbers
          -- the head came before the rest of the queue, in whatever order the requests are listed
          have isOldest : requests.oldest? = some head := by
            refine oldest?_eq entries (perm.mem_iff.mpr List.mem_cons_self) ?_
            intro other member
            rcases List.mem_cons.mp (perm.mem_iff.mp member) with rfl | later
            · exact Nat.le_refl _
            · exact Nat.le_of_lt (ascending.1 other later)
          rw [isOldest]
          dsimp only
          rw [List.tail_cons, ← remove_head numbers.1]
          exact perm.filter _
  · exact perm

/-- A request that comes in is put into the queue, in whatever order the requests are listed when
the oldest one is searched for. -/
theorem bound_perm_join
    {order : Unanswered}
    (inTurn : InTurn queue id)
    (perm : requests.Perm queue)
    (listed : order.Perm ((number, id) :: requests.remove number)) :
    order.bound.Perm (queue.join number id) := by
  have extended : ((number, id) :: requests.remove number).Perm (queue.extend number id) :=
    ((perm.filter _).cons _).trans (List.perm_append_singleton _ _).symm
  exact bound_perm (ascending_extend inTurn number) (numbers_extend inTurn number)
    (listed.trans extended)

/-- A request is found exactly when it is in the queue. -/
theorem find?_eq_some_iff_mem
    (inTurn : InTurn queue nextId)
    (perm : requests.Perm queue) :
    requests.find? number = some id ↔ (number, id) ∈ queue := by
  rw [find?_eq_some_iff ((perm.map _).nodup_iff.mpr inTurn.numbers), perm.mem_iff]

end RequestQueue

/-! ## Runs -/

/-- An entry is a request with a given number. -/
structure Entry.Requests (entry : Entry) (number : Nat) : Prop where
  /-- The entry is a request. -/
  kind_eq : entry.kind = .requestStart
  /-- It has the number. -/
  correlationId_eq : entry.correlationId = some number

namespace Classifier

open RequestQueue

variable {classifier next : Classifier} {entry : Entry} {call : Call} {outcome : Option Entry}
  {request : Nat × EntryId} {number : Nat} {id : EntryId}

section Agreement

variable {record : Record}

theorem forall_mem_concat_iff {condition : Entry → Prop} :
    (∀ other, some other ∈ record ++ [some entry] → condition other) ↔
      (∀ other, some other ∈ record → condition other) ∧ condition entry := by
  simp only [List.mem_append, List.mem_singleton, Option.some.injEq, or_imp, forall_and,
    forall_eq]

/-- The last request with a number has a given id, and there was no reset since. -/
def IsLatestRequest (record : Record) (number : Nat) (id : EntryId) : Prop :=
  Since (fun start => start.Requests number ∧ start.id = id)
    (fun other => ¬other.Requests number) record

/-- A state with the requests listed in a given order. -/
def listing (classifier : Classifier) (order : Unanswered) : Classifier :=
  { classifier with unanswered := order }

/-- What is known of the requests that wait agrees with what was handed out. -/
structure Waits (record : Record) (classifier : Classifier) : Prop where
  /-- The requests are the content of the queue. -/
  perm : classifier.unanswered.Perm (RequestQueue.ofRecord record)
  /-- The queue is in order. -/
  inTurn : InTurn (RequestQueue.ofRecord record) classifier.nextId
  /-- Each request is the latest one with its number. -/
  latest : ∀ request ∈ RequestQueue.ofRecord record, IsLatestRequest record request.1 request.2
  /-- None of them was given to an answer. -/
  free : ∀ request ∈ RequestQueue.ofRecord record, ∀ entry, some entry ∈ record →
    entry.counterpart ≠ some request.2
  /-- What was given to an answer was handed out. -/
  givenBelow : ∀ entry, some entry ∈ record → ∀ id, entry.counterpart = some id →
    id < classifier.nextId

namespace Waits

/-- The order in which the requests are listed does not matter. -/
theorem listing
    {order : Unanswered}
    (waits : Waits record classifier)
    (perm : order.Perm classifier.unanswered) :
    Waits record (classifier.listing order) :=
  ⟨perm.trans waits.perm, waits.inTurn, waits.latest, waits.free, waits.givenBelow⟩

/-- An answer is given the request that is in the queue under its number. -/
theorem exists_mem_of_counterpart
    (waits : Waits record classifier)
    (correlates : classifier.Correlates entry next)
    (refers : entry.counterpart = some id) :
    ∃ number, entry.kind = .requestEnd ∧ entry.correlationId = some number ∧
      (number, id) ∈ RequestQueue.ofRecord record := by
  cases correlates with
  | request number isStart sameNumber free waiting =>
      rw [free] at refers
      cases refers
  | answer number isEnd sameNumber found waiting =>
      rw [found, find?_eq_some_iff_mem waits.inTurn waits.perm] at refers
      exact ⟨number, isEnd, sameNumber, refers⟩
  | other noStart noEnd free waiting =>
      rw [free] at refers
      cases refers

/-- A request in the queue after an entry was handed out is that entry, or it was in the queue and
the entry neither answers it nor takes its number. -/
theorem mem_cases
    (waits : Waits record classifier)
    (correlates : classifier.Correlates entry next)
    (member : request ∈ RequestQueue.ofRecord (record ++ [some entry])) :
    (entry.Requests request.1 ∧ entry.id = request.2) ∨
      (request ∈ RequestQueue.ofRecord record ∧ entry.counterpart ≠ some request.2 ∧
        ¬entry.Requests request.1) := by
  rw [ofRecord_concat] at member
  cases correlates with
  | request number isStart sameNumber free waiting =>
      rw [observe, isStart, sameNumber] at member
      rcases mem_of_mem_join member with rfl | ⟨old, otherNumber⟩
      · exact .inl ⟨⟨isStart, sameNumber⟩, rfl⟩
      · refine .inr ⟨old, free ▸ nofun, ?_⟩
        rintro ⟨-, same⟩
        rw [sameNumber] at same
        exact otherNumber (Option.some.inj same).symm
  | answer number isEnd sameNumber found waiting =>
      rw [observe, isEnd, sameNumber] at member
      obtain ⟨old, otherNumber⟩ := mem_leave_iff.mp member
      refine .inr ⟨old, ?_, fun requests => absurd (isEnd.symm.trans requests.kind_eq) nofun⟩
      -- no entry waits under two numbers, so the answer is given another one
      intro refers
      rw [found, find?_eq_some_iff_mem waits.inTurn waits.perm] at refers
      have same := List.inj_on_of_nodup_map waits.inTurn.entries old refers rfl
      rw [same] at otherNumber
      exact otherNumber rfl
  | other noStart noEnd free waiting =>
      rw [observe_of_other noStart noEnd] at member
      exact .inr ⟨member, free ▸ nofun, fun requests => noStart requests.kind_eq⟩

theorem perm_enter
    (waits : Waits record classifier)
    (handsOut : classifier.HandsOut entry next)
    (correlates : classifier.Correlates entry next) :
    next.unanswered.Perm (RequestQueue.ofRecord (record ++ [some entry])) := by
  rw [ofRecord_concat]
  cases correlates with
  | request number isStart sameNumber free waiting =>
      rw [waiting, observe, isStart, sameNumber, handsOut.id_eq]
      exact bound_perm_join waits.inTurn waits.perm (List.Perm.refl _)
  | answer number isEnd sameNumber found waiting =>
      rw [waiting, observe, isEnd, sameNumber]
      exact waits.perm.filter _
  | other noStart noEnd free waiting =>
      rw [waiting, observe_of_other noStart noEnd]
      exact waits.perm

theorem inTurn_enter
    (waits : Waits record classifier)
    (handsOut : classifier.HandsOut entry next)
    (correlates : classifier.Correlates entry next) :
    InTurn (RequestQueue.ofRecord (record ++ [some entry])) next.nextId := by
  have le : classifier.nextId ≤ next.nextId := handsOut.nextId_eq ▸ Nat.le_succ _
  rw [ofRecord_concat]
  cases correlates with
  | request number isStart sameNumber free waiting =>
      rw [observe, isStart, sameNumber, handsOut.id_eq, handsOut.nextId_eq]
      exact waits.inTurn.join number
  | answer number isEnd sameNumber found waiting =>
      rw [observe, isEnd, sameNumber]
      exact (waits.inTurn.leave number).mono le
  | other noStart noEnd free waiting =>
      rw [observe_of_other noStart noEnd]
      exact waits.inTurn.mono le

/-- Every entry that takes an id keeps the agreement. -/
theorem enter
    (waits : Waits record classifier)
    (handsOut : classifier.HandsOut entry next)
    (correlates : classifier.Correlates entry next) :
    Waits (record ++ [some entry]) next where
  perm := waits.perm_enter handsOut correlates
  inTurn := waits.inTurn_enter handsOut correlates
  latest := by
    intro request member
    rw [IsLatestRequest, since_concat_iff]
    rcases waits.mem_cases correlates member with isEntry | ⟨old, -, noNewer⟩
    · exact ⟨entry, rfl, .inl isEntry⟩
    · exact ⟨entry, rfl, .inr ⟨waits.latest request old, noNewer⟩⟩
  free := by
    intro request member
    rw [forall_mem_concat_iff]
    rcases waits.mem_cases correlates member with ⟨⟨isStart, -⟩, same⟩ | ⟨old, unrelated, -⟩
    · refine ⟨?_, ?_⟩
      · -- a new request has an id above all that were given
        intro other isOther refers
        have below := waits.givenBelow other isOther request.2 refers
        rw [← same, handsOut.id_eq] at below
        exact Nat.lt_irrefl _ below
      · rw [correlates.unlinked (by rw [isStart]; nofun)]
        nofun
    · exact ⟨waits.free request old, unrelated⟩
  givenBelow := by
    rw [forall_mem_concat_iff, handsOut.nextId_eq]
    refine ⟨?_, ?_⟩
    · intro other isOther id refers
      exact Nat.lt_succ_of_lt (waits.givenBelow other isOther id refers)
    · intro id refers
      obtain ⟨number, -, -, member⟩ := waits.exists_mem_of_counterpart correlates refers
      exact Nat.lt_succ_of_lt (waits.inTurn.below _ member)

/-- A continuation changes nothing. -/
theorem keep
    (waits : Waits record classifier)
    (isContinuation : entry.kind = .continuation)
    (free : entry.counterpart = none) :
    Waits (record ++ [some entry]) classifier := by
  have unchanged :
      RequestQueue.ofRecord (record ++ [some entry]) = RequestQueue.ofRecord record := by
    rw [ofRecord_concat, observe_of_other (isContinuation ▸ nofun) (isContinuation ▸ nofun)]
  refine ⟨unchanged ▸ waits.perm, unchanged ▸ waits.inTurn, ?_, ?_, ?_⟩
  · rw [unchanged]
    intro request member
    rw [IsLatestRequest, since_concat_iff]
    refine ⟨entry, rfl, .inr ⟨waits.latest request member, ?_⟩⟩
    rintro ⟨isStart, -⟩
    exact absurd (isContinuation.symm.trans isStart) nofun
  · rw [unchanged]
    intro request member
    rw [forall_mem_concat_iff, free]
    exact ⟨waits.free request member, nofun⟩
  · rw [forall_mem_concat_iff, free]
    exact ⟨waits.givenBelow, nofun⟩

/-- Every call keeps the agreement. -/
theorem concat
    (waits : Waits record classifier)
    (step : classifier.Step call outcome next) :
    Waits (record ++ [outcome]) next := by
  cases step with
  | continues => exact waits.keep rfl rfl
  | files _ files correlates => exact waits.enter files.toHandsOut correlates
  | informs text =>
      exact waits.enter (info_handsOut classifier text) (info_correlates classifier text)
  | resets =>
      have empty : RequestQueue.ofRecord (record ++ [none]) = [] := ofRecord_concat record none
      refine ⟨empty ▸ .refl _, empty ▸ .nil _, ?_, ?_, ?_⟩
      · rw [empty]
        nofun
      · rw [empty]
        nofun
      · intro entry member id refers
        exact waits.givenBelow entry (by simpa using member) id refers

end Waits
end Agreement

/-- Whatever a new classifier is asked for, it knows the requests that wait. -/
theorem waits_record (rule : SectionRule) (calls : List Call) :
    Waits (record { rule } calls) (after { rule } calls) := by
  induction calls using List.reverseRecOn with
  | nil => exact ⟨.refl _, .nil _, nofun, nofun, nofun⟩
  | append_singleton before call inductionHypothesis =>
      rw [record_concat, after_concat]
      exact inductionHypothesis.concat (step_answer _ call)

/-! ## Any order of the requests -/

/-- Two states that differ only in the order in which the requests are listed. -/
structure Reorders (first second : Classifier) : Prop where
  /-- Everything else is the same. -/
  same : first = second.listing first.unanswered
  /-- The same requests wait. -/
  perm : first.unanswered.Perm second.unanswered

/-- A call is answered while the requests are listed in any order. -/
inductive AnswersInAnyOrder (classifier : Classifier) (call : Call) :
    Option Entry → Classifier → Prop
  /-- The requests are listed in some order. -/
  | lists {order : Unanswered} :
      order.Perm classifier.unanswered →
      AnswersInAnyOrder classifier call
        ((classifier.listing order).answer call).1 ((classifier.listing order).answer call).2
  /-- A request has come in, and they are listed in some order while the oldest one is searched
  for. -/
  | searches {entry : Entry} {number : Nat} {order : Unanswered} :
      (classifier.answer call).1 = some entry → entry.Requests number →
      order.Perm ((number, entry.id) :: classifier.unanswered.remove number) →
      AnswersInAnyOrder classifier call
        (some entry) ((classifier.answer call).2.listing order.bound)

/-- The run of a new classifier whose requests are listed in any order, a different one each time
they are looked at. -/
inductive RunsInAnyOrder (rule : SectionRule) : List Call → Record → Classifier → Prop
  /-- Nothing was asked yet. -/
  | start : RunsInAnyOrder rule [] [] { rule }
  /-- One more call is answered. -/
  | call {calls : List Call} {record : Record} {classifier next : Classifier} {call : Call}
      {outcome : Option Entry} :
      RunsInAnyOrder rule calls record classifier →
      classifier.AnswersInAnyOrder call outcome next →
      RunsInAnyOrder rule (calls ++ [call]) (record ++ [outcome]) next

section Found

variable {order : Unanswered}
  (found : ∀ number, order.find? number = classifier.unanswered.find? number)
include found

/-- What is handed out for a line depends on what is found, not on where it stands. -/
theorem classifyFresh_listing (line : String) :
    ((classifier.listing order).classifyFresh line).1 = (classifier.classifyFresh line).1 ∧
      ((classifier.listing order).classifyFresh line).2 =
        (classifier.classifyFresh line).2.listing
          ((classifier.listing order).classifyFresh line).2.unanswered := by
  unfold classifyFresh listing
  simp only [found]
  cases classifier.rule.marker? line.toList with
  | some severity => exact ⟨rfl, rfl⟩
  | none =>
      cases if classifier.stream = .error then none else Request.start? line.toList with
      | some start => exact ⟨rfl, rfl⟩
      | none =>
          cases Request.end? line.toList with
          | some answer => exact ⟨rfl, rfl⟩
          | none => exact ⟨rfl, rfl⟩

theorem answer_listing (call : Call) :
    ((classifier.listing order).answer call).1 = (classifier.answer call).1 ∧
      ((classifier.listing order).answer call).2 =
        (classifier.answer call).2.listing
          ((classifier.listing order).answer call).2.unanswered := by
  cases call with
  | classify line =>
      have sameContinued :
          (classifier.listing order).continued? line = classifier.continued? line :=
        rfl
      simp only [answer, classify, sameContinued]
      cases classifier.continued? line with
      | some id => exact ⟨rfl, rfl⟩
      | none =>
          obtain ⟨sameEntry, sameState⟩ := classifyFresh_listing found line
          exact ⟨congrArg some sameEntry, sameState⟩
  | info text => exact ⟨rfl, rfl⟩
  | reset => exact ⟨rfl, rfl⟩

end Found

/-- An entry that is no continuation takes the next id, and changes which requests wait. -/
theorem handsOut_and_correlates_of_answer
    (handsOut : (classifier.answer call).1 = some entry)
    (stored : entry.kind ≠ .continuation) :
    classifier.HandsOut entry (classifier.answer call).2 ∧
      classifier.Correlates entry (classifier.answer call).2 := by
  have step := classifier.step_answer call
  rw [handsOut] at step
  generalize (classifier.answer call).2 = next at step
  cases step with
  | continues => exact absurd rfl stored
  | files _ files correlates => exact ⟨files.toHandsOut, correlates⟩
  | informs text => exact ⟨info_handsOut classifier text, info_correlates classifier text⟩

namespace Waits

variable {first : Classifier} {record : Record}

/-- In whatever order the requests are listed, the same is handed out and the same requests wait. -/
theorem reorders_answer
    (waits : Waits record classifier)
    (reorders : Reorders first classifier)
    (call : Call) :
    (first.answer call).1 = (classifier.answer call).1 ∧
      Reorders (first.answer call).2 (classifier.answer call).2 := by
  obtain ⟨same, perm⟩ := reorders
  generalize first.unanswered = order at same perm
  subst same
  have numbers : (classifier.unanswered.map (·.1)).Nodup :=
    (waits.perm.map _).nodup_iff.mpr waits.inTurn.numbers
  obtain ⟨sameOutcome, sameState⟩ :=
    answer_listing (Unanswered.find?_eq_of_perm numbers perm) call
  have listed := (waits.listing perm).concat (step_answer _ call)
  rw [sameOutcome] at listed
  exact ⟨sameOutcome, sameState, listed.perm.trans (waits.concat (step_answer _ call)).perm.symm⟩

theorem reorders_of_answersInAnyOrder
    (waits : Waits record classifier)
    (reorders : Reorders first classifier)
    (answers : first.AnswersInAnyOrder call outcome next) :
    outcome = (classifier.answer call).1 ∧ Reorders next (classifier.answer call).2 := by
  cases answers with
  | @lists order listed =>
      have listing : Reorders (first.listing order) classifier := by
        refine ⟨?_, listed.trans reorders.perm⟩
        rw [reorders.same]
        rfl
      exact waits.reorders_answer listing call
  | @searches entry number order handsOut requests listed =>
      obtain ⟨sameOutcome, same, -⟩ := waits.reorders_answer reorders call
      rw [handsOut] at sameOutcome
      have stored : entry.kind ≠ .continuation := by
        rw [requests.kind_eq]
        nofun
      obtain ⟨⟨isNext⟩, -⟩ := handsOut_and_correlates_of_answer sameOutcome.symm stored
      have searched : order.bound.Perm ((RequestQueue.ofRecord record).join number entry.id) :=
        bound_perm_join (isNext ▸ waits.inTurn) (reorders.perm.trans waits.perm) listed
      have queued := (waits.concat (step_answer _ call)).perm
      rw [← sameOutcome, ofRecord_concat, observe, requests.kind_eq, requests.correlationId_eq]
        at queued
      refine ⟨sameOutcome, ?_, searched.trans queued.symm⟩
      rw [same]
      rfl

end Waits

/-- A run does not show the order in which the requests are listed. -/
theorem reorders_of_runsInAnyOrder
    {rule : SectionRule}
    {calls : List Call}
    {listed : Record}
    {last : Classifier}
    (runs : RunsInAnyOrder rule calls listed last) :
    listed = record { rule } calls ∧ Reorders last (after { rule } calls) := by
  induction runs with
  | start => exact ⟨rfl, rfl, .refl _⟩
  | @call calls listed classifier next call outcome _ answers inductionHypothesis =>
      obtain ⟨sameRecord, reorders⟩ := inductionHypothesis
      obtain ⟨sameOutcome, reordersNext⟩ :=
        (waits_record rule calls).reorders_of_answersInAnyOrder reorders answers
      rw [record_concat, after_concat, sameRecord, sameOutcome]
      exact ⟨rfl, reordersNext⟩

/-- The run itself lists the requests in one of the orders. -/
theorem runsInAnyOrder_record (rule : SectionRule) (calls : List Call) :
    RunsInAnyOrder rule calls (record { rule } calls) (after { rule } calls) := by
  induction calls using List.reverseRecOn with
  | nil => exact .start
  | append_singleton before call inductionHypothesis =>
      rw [record_concat, after_concat]
      exact inductionHypothesis.call (.lists (List.Perm.refl _))

/-! ## The requests that wait -/

/-- What the record of a run says of the requests that wait. -/
structure Queued (record : Record) (classifier : Classifier) : Prop where
  /-- They are the content of the queue. -/
  perm : classifier.unanswered.Perm (RequestQueue.ofRecord record)
  /-- No number waits twice. -/
  numbers : (classifier.unanswered.map (·.1)).Nodup
  /-- There are not too many. -/
  length_le : classifier.unanswered.length ≤ 4096
  /-- A request waits when it has just come in. -/
  newest : ∀ before start, record = before ++ [some start] → start.kind = .requestStart →
    ∃ number, start.correlationId = some number ∧ (number, start.id) ∈ classifier.unanswered
  /-- An answer is given the request that is in the queue under its number, if there is one. -/
  answered : ∀ before answer later, record = before ++ some answer :: later →
    answer.kind = .requestEnd →
    ∃ number, answer.correlationId = some number ∧
      ∀ id, answer.counterpart = some id ↔ (number, id) ∈ RequestQueue.ofRecord before
  /-- What is given is the last request with the number since the last reset. -/
  latest : ∀ before answer later id, record = before ++ some answer :: later →
    answer.counterpart = some id →
    answer.kind = .requestEnd ∧
      ∃ number, answer.correlationId = some number ∧ IsLatestRequest before number id
  /-- No request is given twice. -/
  once : ∀ before first between second later id,
    record = before ++ some first :: (between ++ some second :: later) →
    first.counterpart = some id → second.counterpart ≠ some id

namespace Waits

variable {record : Record} (waits : Waits record classifier)
  (handsOut : (classifier.answer call).1 = some entry)
include waits handsOut

theorem mem_unanswered_of_answer (isStart : entry.kind = .requestStart) :
    ∃ number, entry.correlationId = some number ∧
      (number, entry.id) ∈ (classifier.answer call).2.unanswered := by
  obtain ⟨-, correlates⟩ := handsOut_and_correlates_of_answer handsOut (by rw [isStart]; nofun)
  have queued := (waits.concat (step_answer _ call)).perm
  cases correlates with
  | request number _ sameNumber =>
      refine ⟨number, sameNumber, queued.mem_iff.mpr ?_⟩
      rw [handsOut, ofRecord_concat, observe, isStart, sameNumber]
      exact mem_join_self _ number entry.id
  | answer _ isEnd => exact absurd (isStart.symm.trans isEnd) nofun
  | other noStart => exact absurd isStart noStart

theorem counterpart_of_answer (isEnd : entry.kind = .requestEnd) :
    ∃ number, entry.correlationId = some number ∧
      ∀ id, entry.counterpart = some id ↔ (number, id) ∈ RequestQueue.ofRecord record := by
  obtain ⟨-, correlates⟩ := handsOut_and_correlates_of_answer handsOut (by rw [isEnd]; nofun)
  cases correlates with
  | request _ isStart => exact absurd (isEnd.symm.trans isStart) nofun
  | answer number _ sameNumber found =>
      refine ⟨number, sameNumber, fun id => ?_⟩
      rw [found, find?_eq_some_iff_mem waits.inTurn waits.perm]
  | other _ noEnd => exact absurd isEnd noEnd

theorem exists_mem_of_answer (refers : entry.counterpart = some id) :
    ∃ number, entry.kind = .requestEnd ∧ entry.correlationId = some number ∧
      (number, id) ∈ RequestQueue.ofRecord record := by
  obtain ⟨next, step⟩ := exists_step_of_answer handsOut
  cases step with
  | continues => cases refers
  | files _ _ correlates => exact waits.exists_mem_of_counterpart correlates refers
  | informs text => cases refers

end Waits

/-- What a new classifier has handed out says which requests wait. -/
theorem queued_record (rule : SectionRule) (calls : List Call) :
    Queued (record { rule } calls) (after { rule } calls) where
  perm := (waits_record rule calls).perm
  numbers := by
    have waits := waits_record rule calls
    exact (waits.perm.map _).nodup_iff.mpr waits.inTurn.numbers
  length_le := by
    have waits := waits_record rule calls
    exact waits.perm.length_eq ▸ waits.inTurn.length_le
  newest := by
    intro before start split isStart
    rcases List.eq_nil_or_concat' calls with rfl | ⟨earlier, call, rfl⟩
    · exact absurd split (by simp [record])
    · rw [record_concat] at split
      obtain ⟨-, same⟩ := List.append_inj' split rfl
      rw [after_concat]
      have handsOut := List.singleton_inj.mp same
      exact (waits_record rule earlier).mem_unanswered_of_answer handsOut isStart
  answered := by
    intro before answer later split isEnd
    obtain ⟨earlier, call, rfl, handsOut⟩ := exists_call_of_record_eq split
    exact (waits_record rule earlier).counterpart_of_answer handsOut.symm isEnd
  latest := by
    intro before answer later id split refers
    obtain ⟨earlier, call, rfl, handsOut⟩ := exists_call_of_record_eq split
    have waits := waits_record rule earlier
    obtain ⟨number, isEnd, sameNumber, member⟩ := waits.exists_mem_of_answer handsOut.symm refers
    exact ⟨isEnd, number, sameNumber, waits.latest _ member⟩
  once := by
    intro before first between second later id split refersFirst refersSecond
    -- the second answer is given a request that waits, and those were not given before
    rw [← List.cons_append, ← List.append_assoc] at split
    obtain ⟨earlier, call, recorded, handsOut⟩ := exists_call_of_record_eq split
    have waits := waits_record rule earlier
    obtain ⟨number, -, -, member⟩ := waits.exists_mem_of_answer handsOut.symm refersSecond
    have wasHandedOut : some first ∈ record { rule } earlier := by
      rw [← recorded]
      exact List.mem_append_right _ List.mem_cons_self
    exact waits.free _ member first wasHandedOut refersFirst

/-- Whatever a new classifier is asked for, the requests that wait are the content of a bounded
queue, and the order in which they are listed never shows. -/
theorem queued_in_any_order (rule : SectionRule) (calls : List Call) :
    Queued (record { rule } calls) (after { rule } calls) ∧
      RunsInAnyOrder rule calls (record { rule } calls) (after { rule } calls) ∧
      ∀ listed last, RunsInAnyOrder rule calls listed last →
        listed = record { rule } calls ∧ Reorders last (after { rule } calls) :=
  ⟨queued_record rule calls, runsInAnyOrder_record rule calls,
    fun _ _ runs => reorders_of_runsInAnyOrder runs⟩

end Classifier
end TailView
