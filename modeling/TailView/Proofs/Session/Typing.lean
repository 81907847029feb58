import TailView.Proofs.Session.Identity
import TailView.Proofs.Session.Visibility

/-!
# Filter texts that are typed

A typed filter text waits until typing has paused.  Whatever happens meanwhile, and whether or not
the times of a history go up, a poll makes the last typed text the filter exactly if its quiet time
is over and nothing was made the filter since it was typed.  So the texts that polls make the filter
are among the typed ones, each at most once and in order, and a text that was replaced never is.
-/

namespace TailView

namespace Debouncer

variable {α : Type} {debouncer : Debouncer α} {value : α} {due now : Nat}

/-- A poll takes the value that waits, once it is due. -/
theorem poll_eq_some_iff :
    (debouncer.poll now).1 = some value ↔
      ∃ due, debouncer.pending = some (value, due) ∧ due ≤ now := by
  unfold poll
  cases waiting : debouncer.pending with
  | none => simp
  | some both =>
      obtain ⟨other, due⟩ := both
      by_cases isDue : due ≤ now <;> simp [isDue]

theorem deadline_eq_some_iff :
    debouncer.deadline = some due ↔ ∃ value, debouncer.pending = some (value, due) := by
  simp [deadline]

/-- What a poll takes is what waits. -/
theorem poll_toList_sublist (debouncer : Debouncer α) (now : Nat) :
    (debouncer.poll now).1.toList.Sublist (debouncer.pending.map (·.1)).toList := by
  cases polled : (debouncer.poll now).1 with
  | none => exact List.nil_sublist _
  | some value =>
      obtain ⟨due, waits, _⟩ := poll_eq_some_iff.mp polled
      rw [waits]
      exact List.Sublist.refl _

end Debouncer

namespace Filter

/-- What a filter lets be seen after a text was made the filter depends only on how texts are
understood. -/
theorem isVisible_setText_congr
    {filter other : Filter}
    (same : filter.compile = other.compile)
    (text entryText : String) :
    (filter.setText text).isVisible entryText = (other.setText text).isVisible entryText := by
  unfold setText
  rw [same]
  split
  · rfl
  · cases other.compile text <;> rfl

section LastText

variable {start filter : Filter} {texts : List String} {text : String}

/-- If the last text is accepted it is the filter, and exactly what it matches is seen; an empty
text is no filter. -/
theorem ResultsFrom.of_accepts
    (results : ResultsFrom start (texts ++ [text]) filter)
    (accepted : start.accepts text = true) :
    filter.rejection = none ∧ filter.pattern = (if text.isEmpty then none else some text) ∧
      ∀ entryText, filter.isVisible entryText = true ↔
        text.isEmpty = true ∨ start.Matches text entryText := by
  have last : start.lastAccepted (texts ++ [text]) =
      if text.isEmpty then none else some text := by
    rw [lastAccepted_concat, accepted, if_pos rfl]
  have enabled : filter.rejection = none := by
    refine results.notRejected fun other isLast => ?_
    rw [List.getLast?_concat] at isLast
    cases isLast
    exact accepted
  refine ⟨enabled, results.pattern_eq.trans last, fun entryText => ?_⟩
  rw [results.isVisible_iff enabled, last]
  cases text.isEmpty <;> simp

/-- If the last text is refused it is the error, and everything is seen. -/
theorem ResultsFrom.of_not_accepts
    (results : ResultsFrom start (texts ++ [text]) filter)
    (refused : start.accepts text = false) :
    (∃ fault, start.compile text = .error fault ∧ filter.rejection = some ⟨text, fault⟩) ∧
      ∀ entryText, filter.isVisible entryText = true := by
  obtain ⟨fault, fails, disabled⟩ := results.rejected text List.getLast?_concat refused
  exact ⟨⟨fault, fails, disabled⟩, isVisible_of_rejection disabled⟩

end LastText

end Filter

/-! ## What is typed and what is polled -/

/-- The filter text that an operation types, and when. -/
def Operation.typed? : Operation → Option (String × Nat)
  | .typeFilter text now => some (text, now)
  | .handle (.filter text) now => some (text, now)
  | _ => none

/-- The filter texts that a history types, in order. -/
def typedTexts (operations : List Operation) : List String :=
  operations.filterMap fun operation => operation.typed?.map (·.1)

/-- An operation that makes nothing the filter while a text waits that is due at a given time: it
sets no text, and it does not poll at that time or later. -/
def Operation.Spares (due : Nat) : Operation → Prop
  | .setFilter _ => False
  | .pollFilter now => now < due
  | _ => True

namespace Session

variable {session start : Session} {operation : Operation} {operations : List Operation}
  {text : String} {now due time : Nat}

/-- The text that an operation makes the filter because it was typed before. -/
def polled? (session : Session) : Operation → Option String
  | .pollFilter now => (session.typed.poll now).1
  | _ => none

/-- The texts that a history makes the filter because they were typed before, in order. -/
def polledTexts (session : Session) : List Operation → List String
  | [] => []
  | operation :: rest =>
      (session.polled? operation).toList ++ (session.perform operation).polledTexts rest

/-- The last text that a history types, and when, provided that nothing was made the filter after
it. -/
def LastTyped (start : Session) (operations : List Operation) (text : String) (time : Nat) : Prop :=
  ∃ before operation since,
    operations = before ++ operation :: since ∧
      operation.typed? = some (text, time) ∧
      (∀ other ∈ since, other.typed? = none) ∧
      (start.run (before ++ [operation])).filterTexts since = []

/-! ## The waiting text after one operation -/

theorem typed_note (session : Session) (text : String) :
    (session.note text).typed = session.typed :=
  congrArg Surroundings.typed (surroundings_note session text)

theorem typed_reload (session : Session) : session.reload.typed = session.typed := by
  unfold reload
  split <;> rfl

theorem typed_toggleFollow (session : Session) : session.toggleFollow.typed = session.typed := by
  unfold toggleFollow
  split
  · rfl
  · rw [typed_reload]

theorem typed_connected (session : Session) : session.connected.typed = session.typed := by
  unfold connected
  split <;> rfl

theorem typed_receive (session : Session) (payload : Payload) :
    (session.receive payload).typed = session.typed :=
  congrArg Surroundings.typed (surroundings_receive session payload)

theorem typed_endStream (session : Session) : session.endStream.typed = session.typed :=
  congrArg Surroundings.typed (surroundings_endStream session)

/-- A typed text waits, a text that is made the filter ends the waiting, and everything else leaves
it alone. -/
theorem typed_perform (session : Session) (operation : Operation) :
    (session.perform operation).typed =
      match operation.typed?, session.filterText? operation with
      | some (text, time), _ => session.typed.push text time
      | none, some _ => session.typed.cancel
      | none, none => session.typed := by
  cases operation with
  | openFile file amount => rfl
  | reload => exact typed_reload session
  | stop => rfl
  | toggleFollow => exact typed_toggleFollow session
  | toggleErrorFocus => rfl
  | setFilter text => rfl
  | typeFilter text now => rfl
  | pollFilter now =>
      simp only [perform, pollFilter, filterText?, Operation.typed?]
      split <;> simp_all [setFilter, announce]
  | handle control now =>
      cases control with
      | openFile file amount => rfl
      | filter pattern => rfl
      | toggleErrorFocus => rfl
      | toggleFollow => exact typed_toggleFollow session
      | stop => rfl
      | reload => exact typed_reload session
      | quit => rfl
  | connected => exact typed_connected session
  | dial => rfl
  | disconnected reason => exact typed_note _ _
  | heartbeat => rfl
  | receive payload => exact typed_receive session payload
  | endStream => exact typed_endStream session
  | note text => exact typed_note session text
  | takeOutbound => rfl
  | takeUpdates => rfl

theorem typed_perform_of_typed (types : operation.typed? = some (text, time)) :
    (session.perform operation).typed = session.typed.push text time := by
  rw [typed_perform, types]

theorem typed_perform_of_filterText
    (typesNothing : operation.typed? = none)
    (sets : session.filterText? operation = some text) :
    (session.perform operation).typed = session.typed.cancel := by
  rw [typed_perform, typesNothing, sets]

theorem typed_perform_of_neither
    (typesNothing : operation.typed? = none)
    (setsNothing : session.filterText? operation = none) :
    (session.perform operation).typed = session.typed := by
  rw [typed_perform, typesNothing, setsNothing]

theorem quiet_perform (session : Session) (operation : Operation) :
    (session.perform operation).typed.quiet = session.typed.quiet := by
  rw [typed_perform]
  split <;> rfl

theorem quiet_run (session : Session) (operations : List Operation) :
    (session.run operations).typed.quiet = session.typed.quiet := by
  induction operations generalizing session with
  | nil => rfl
  | cons operation rest inductionHypothesis =>
      exact (inductionHypothesis (session.perform operation)).trans
        (quiet_perform session operation)

theorem polled?_eq_none_of_typed (types : operation.typed?.isSome) :
    session.polled? operation = none := by
  cases operation <;> first | rfl | cases types

theorem polled?_eq_none_of_filterText
    (setsNothing : session.filterText? operation = none) :
    session.polled? operation = none := by
  cases operation <;> first | rfl | exact setsNothing

/-- What an operation polls waited before. -/
theorem polled?_toList_sublist (session : Session) (operation : Operation) :
    (session.polled? operation).toList.Sublist (session.typed.pending.map (·.1)).toList := by
  cases operation with
  | pollFilter now => exact session.typed.poll_toList_sublist now
  | _ => exact List.nil_sublist _

/-! ## The waiting text after a history -/

theorem run_concat (session : Session) (operations : List Operation) (operation : Operation) :
    session.run (operations ++ [operation]) = (session.run operations).perform operation :=
  List.foldl_concat ..

theorem filterTexts_append (session : Session) (first second : List Operation) :
    session.filterTexts (first ++ second) =
      session.filterTexts first ++ (session.run first).filterTexts second := by
  induction first generalizing session with
  | nil => rfl
  | cons operation rest inductionHypothesis =>
      rw [List.cons_append, filterTexts, filterTexts, inductionHypothesis, List.append_assoc]
      rfl

/-- The last typed text after one more operation is the one that it types, or the one before if it
types nothing and makes nothing the filter. -/
theorem lastTyped_concat_iff :
    start.LastTyped (operations ++ [operation]) text time ↔
      operation.typed? = some (text, time) ∨
        operation.typed? = none ∧ (start.run operations).filterText? operation = none ∧
          start.LastTyped operations text time := by
  constructor
  · rintro ⟨before, input, since, split, types, typeNothing, setNothing⟩
    rcases List.eq_nil_or_concat' since with rfl | ⟨since, last, rfl⟩
    · left
      obtain ⟨_, same⟩ := List.append_inj' split rfl
      cases same
      exact types
    · right
      rw [← List.cons_append, ← List.append_assoc] at split
      obtain ⟨rfl, same⟩ := List.append_inj' split rfl
      cases same
      rw [filterTexts_append, List.append_eq_nil_iff, ← run_append, List.append_assoc] at setNothing
      refine ⟨typeNothing _ (by simp), by simpa [filterTexts] using setNothing.2, ?_⟩
      exact ⟨before, input, since, rfl, types,
        fun other member => typeNothing other (List.mem_append_left _ member), setNothing.1⟩
  · rintro (types | ⟨typesNothing, setsNothing, before, input, since, rfl, types, typeNothing,
      setNothing⟩)
    · exact ⟨operations, operation, [], rfl, types, by simp, by rw [filterTexts]⟩
    · refine ⟨before, input, since ++ [operation], by simp, types, ?_, ?_⟩
      · intro other member
        rcases List.mem_append.mp member with old | new
        · exact typeNothing other old
        · rw [List.mem_singleton.mp new]
          exact typesNothing
      · rw [filterTexts_append, setNothing, ← run_append, List.append_assoc]
        simpa [filterTexts] using setsNothing

/-- What waits after a history is the text that was typed last, until its quiet time is over. -/
theorem pending_run_iff (nothingWaits : start.typed.pending = none) :
    (start.run operations).typed.pending = some (text, due) ↔
      ∃ time, start.LastTyped operations text time ∧ due = time + start.typed.quiet := by
  induction operations using List.reverseRecOn with
  | nil => simp [run, nothingWaits, LastTyped]
  | append_singleton operations operation inductionHypothesis =>
      rw [run_concat]
      simp only [lastTyped_concat_iff]
      cases types : operation.typed? with
      | some both =>
          obtain ⟨typedText, typedTime⟩ := both
          rw [typed_perform_of_typed types, Debouncer.push, quiet_run]
          simp [and_assoc, eq_comm]
      | none =>
          cases sets : (start.run operations).filterText? operation with
          | some _ => simp [typed_perform_of_filterText types sets, Debouncer.cancel]
          | none => simpa [typed_perform_of_neither types sets] using inductionHypothesis

/-- While a text waits and nothing is typed, nothing is made the filter exactly if no text is set
and no poll comes when the waiting text is due. -/
theorem filterTexts_eq_nil_iff
    (waits : session.typed.pending = some (text, due))
    (typeNothing : ∀ other ∈ operations, other.typed? = none) :
    session.filterTexts operations = [] ↔ ∀ other ∈ operations, other.Spares due := by
  induction operations generalizing session with
  | nil => simp [filterTexts]
  | cons operation rest inductionHypothesis =>
      obtain ⟨typesNothing, restTypeNothing⟩ := List.forall_mem_cons.mp typeNothing
      have spares : session.filterText? operation = none ↔ operation.Spares due := by
        cases operation with
        | setFilter text => simp [filterText?, Operation.Spares]
        | pollFilter now =>
            simp only [filterText?, Operation.Spares, Debouncer.poll, waits]
            by_cases isDue : due ≤ now <;> simp [isDue]
            omega
        | _ => simp [filterText?, Operation.Spares]
      rw [filterTexts, List.append_eq_nil_iff, Option.toList_eq_nil_iff, List.forall_mem_cons]
      constructor
      · rintro ⟨setsNothing, restSetsNothing⟩
        rw [← typed_perform_of_neither typesNothing setsNothing] at waits
        exact ⟨spares.mp setsNothing,
          (inductionHypothesis waits restTypeNothing).mp restSetsNothing⟩
      · rintro ⟨spared, restSpared⟩
        have setsNothing := spares.mpr spared
        rw [← typed_perform_of_neither typesNothing setsNothing] at waits
        exact ⟨setsNothing, (inductionHypothesis waits restTypeNothing).mpr restSpared⟩

/-- Which text was typed last shows from the history alone: after it nothing is typed, no text is
set, and no poll comes when it is due. -/
theorem lastTyped_iff :
    start.LastTyped operations text time ↔
      ∃ before operation since,
        operations = before ++ operation :: since ∧
          operation.typed? = some (text, time) ∧
          ∀ other ∈ since, other.typed? = none ∧ other.Spares (time + start.typed.quiet) := by
  have spared : ∀ {before : List Operation} {operation : Operation} {since : List Operation},
      operation.typed? = some (text, time) → (∀ other ∈ since, other.typed? = none) →
      ((start.run (before ++ [operation])).filterTexts since = [] ↔
        ∀ other ∈ since, other.Spares (time + start.typed.quiet)) := by
    intro before operation since types typeNothing
    have waits : (start.run (before ++ [operation])).typed.pending =
        some (text, time + start.typed.quiet) := by
      rw [run_concat, typed_perform_of_typed types, Debouncer.push, quiet_run]
    exact filterTexts_eq_nil_iff waits typeNothing
  constructor
  · rintro ⟨before, operation, since, split, types, typeNothing, setNothing⟩
    have restSpares := (spared types typeNothing).mp setNothing
    exact ⟨before, operation, since, split, types,
      fun other member => ⟨typeNothing other member, restSpares other member⟩⟩
  · rintro ⟨before, operation, since, split, types, both⟩
    have typeNothing : ∀ other ∈ since, other.typed? = none := fun other member =>
      (both other member).1
    exact ⟨before, operation, since, split, types, typeNothing,
      (spared types typeNothing).mpr fun other member => (both other member).2⟩

/-! ## Typed texts take effect once -/

/-- The texts that a history polls are the waiting one and the ones that it types, in order, each
at most once. -/
theorem polledTexts_sublist (session : Session) (operations : List Operation) :
    (session.polledTexts operations).Sublist
      ((session.typed.pending.map (·.1)).toList ++ typedTexts operations) := by
  induction operations generalizing session with
  | nil => exact List.nil_sublist _
  | cons operation rest inductionHypothesis =>
      have restSublist := inductionHypothesis (session.perform operation)
      rw [polledTexts]
      cases types : operation.typed? with
      | some both =>
          rw [polled?_eq_none_of_typed (by rw [types]; rfl)]
          rw [typed_perform_of_typed types] at restSublist
          have added : typedTexts (operation :: rest) = both.1 :: typedTexts rest := by
            simp [typedTexts, types]
          rw [added]
          exact restSublist.trans (List.sublist_append_right _ _)
      | none =>
          have added : typedTexts (operation :: rest) = typedTexts rest := by
            simp [typedTexts, types]
          rw [added]
          cases sets : session.filterText? operation with
          | some _ =>
              rw [typed_perform_of_filterText types sets] at restSublist
              exact (session.polled?_toList_sublist operation).append restSublist
          | none =>
              rw [typed_perform_of_neither types sets] at restSublist
              rw [polled?_eq_none_of_filterText sets]
              exact restSublist

/-- After an operation that types a text or makes one the filter, what is polled was typed by it or
later. -/
theorem polledTexts_perform_sublist
    (replaces : operation.typed?.isSome ∨ (session.filterText? operation).isSome)
    (later : List Operation) :
    ((session.perform operation).polledTexts later).Sublist (typedTexts (operation :: later)) := by
  have laterSublist := (session.perform operation).polledTexts_sublist later
  cases types : operation.typed? with
  | some both =>
      rw [typed_perform_of_typed types] at laterSublist
      simpa [typedTexts, types, Debouncer.push] using laterSublist
  | none =>
      obtain ⟨text, sets⟩ : ∃ text, session.filterText? operation = some text := by
        simpa [types, Option.isSome_iff_exists] using replaces
      rw [typed_perform_of_filterText types sets] at laterSublist
      simpa [typedTexts, types, Debouncer.cancel] using laterSublist

/-! ## What a history polls -/

/-- A poll sets the text that it takes, and does nothing if it takes none. -/
theorem pollFilter_eq (session : Session) (now : Nat) :
    session.pollFilter now =
      match session.polled? (.pollFilter now) with
      | some text => session.setFilter text
      | none => session := by
  unfold pollFilter polled?
  split <;> simp_all

/-- After a poll that takes a text the filter results from the texts that were made the filter
before and the one that was taken. -/
theorem resultsFrom_pollFilter
    (options : SessionOptions)
    (polled : ((ofOptions options).run operations).polled? (.pollFilter now) = some text) :
    Filter.ResultsFrom (ofOptions options).filter
      ((ofOptions options).filterTexts operations ++ [text])
      (((ofOptions options).run operations).pollFilter now).filter := by
  have results : Filter.ResultsFrom (ofOptions options).filter
      ((ofOptions options).filterTexts operations) ((ofOptions options).run operations).filter := by
    rw [filter_run]
    exact Filter.resultsFrom_foldl_setText rfl rfl _
  rw [pollFilter_eq, polled]
  exact results.setText text

theorem filtered_pollFilter (options : SessionOptions) (operations : List Operation) (now : Nat) :
    (((ofOptions options).run operations).pollFilter now).Filtered := by
  have filtered : ((ofOptions options).run (operations ++ [.pollFilter now])).Filtered :=
    (stable_filtered.run ⟨ordered_ofOptions options, nofun⟩ _).2
  rwa [run_concat] at filtered

/-- What typed filter texts do to a session after a history. -/
structure Debounces (start : Session) (quiet : Nat) (operations : List Operation) : Prop where
  /-- A poll takes exactly the text that was typed last, if its quiet time is over. -/
  polled_iff : ∀ now text,
    (start.run operations).polled? (.pollFilter now) = some text ↔
      ∃ time, start.LastTyped operations text time ∧ time + quiet ≤ now
  /-- The text that a poll takes becomes the filter. -/
  taken : ∀ now text, (start.run operations).polled? (.pollFilter now) = some text →
    (start.run operations).pollFilter now = (start.run operations).setFilter text
  /-- If the text that was taken is accepted, it is the filter, and exactly the entries are seen
  that it matches; an empty text is no filter, and all entries are seen. -/
  accepted : ∀ now text, (start.run operations).polled? (.pollFilter now) = some text →
    start.filter.accepts text = true →
      ((start.run operations).pollFilter now).filter.rejection = none ∧
      ((start.run operations).pollFilter now).filter.pattern =
        (if text.isEmpty then none else some text) ∧
      ∀ entry ∈ ((start.run operations).pollFilter now).mainView ++
          ((start.run operations).pollFilter now).focusView,
        entry.visible = true ↔ text.isEmpty = true ∨ start.filter.Matches text entry.text
  /-- If it is refused, it is the error, and all entries are seen. -/
  refused : ∀ now text, (start.run operations).polled? (.pollFilter now) = some text →
    start.filter.accepts text = false →
      (∃ fault, start.filter.compile text = .error fault ∧
        ((start.run operations).pollFilter now).filter.rejection = some ⟨text, fault⟩) ∧
      ∀ entry ∈ ((start.run operations).pollFilter now).mainView ++
          ((start.run operations).pollFilter now).focusView,
        entry.visible = true
  /-- A poll that takes no text does nothing. -/
  untaken : ∀ now, (start.run operations).polled? (.pollFilter now) = none →
    (start.run operations).pollFilter now = start.run operations
  /-- Which entries are seen after a text was taken depends only on it and on their texts. -/
  seen : ∀ now text, (start.run operations).polled? (.pollFilter now) = some text →
    ∀ entry ∈ ((start.run operations).pollFilter now).mainView ++
        ((start.run operations).pollFilter now).focusView,
      entry.visible = (start.filter.setText text).isVisible entry.text
  /-- After a text was taken there is no deadline. -/
  finished : ∀ now text, (start.run operations).polled? (.pollFilter now) = some text →
    ((start.run operations).pollFilter now).typed.deadline = none
  /-- The deadline is the end of the quiet time of the text that was typed last. -/
  deadline_iff : ∀ due,
    (start.run operations).typed.deadline = some due ↔
      ∃ text time, start.LastTyped operations text time ∧ due = time + quiet
  /-- The text that was typed last shows from the history alone. -/
  lastTyped_iff : ∀ text time,
    start.LastTyped operations text time ↔
      ∃ before operation since,
        operations = before ++ operation :: since ∧
          operation.typed? = some (text, time) ∧
          ∀ other ∈ since, other.typed? = none ∧ other.Spares (time + quiet)
  /-- The texts that are taken are among the typed ones, each at most once and in order. -/
  once : (start.polledTexts operations).Sublist (typedTexts operations)
  /-- After an operation that types a text or makes one the filter, no text from before it is taken
  any more. -/
  superseded : ∀ operation later,
    operation.typed?.isSome ∨ ((start.run operations).filterText? operation).isSome →
      ((start.run operations).perform operation |>.polledTexts later).Sublist
        (typedTexts (operation :: later))

/-- In every history of a session, whatever its times, typed filter texts take effect when typing
has paused: the last one, once, and none that was replaced. -/
theorem debounces_run (options : SessionOptions) (operations : List Operation) :
    (ofOptions options).Debounces options.debounce operations := by
  have pending_iff : ∀ {text due},
      ((ofOptions options).run operations).typed.pending = some (text, due) ↔
        ∃ time, (ofOptions options).LastTyped operations text time ∧
          due = time + options.debounce := pending_run_iff rfl
  have filtered := filtered_pollFilter options operations
  have same : ((ofOptions options).run operations).filter.compile =
      (ofOptions options).filter.compile := by
    rw [filter_run]
    exact (Filter.resultsFrom_foldl_setText rfl rfl _).compile_eq
  exact
    { polled_iff := by
        intro now text
        rw [polled?, Debouncer.poll_eq_some_iff]
        constructor
        · rintro ⟨due, waits, isDue⟩
          obtain ⟨time, last, rfl⟩ := pending_iff.mp waits
          exact ⟨time, last, isDue⟩
        · rintro ⟨time, last, isDue⟩
          exact ⟨time + options.debounce, pending_iff.mpr ⟨time, last, rfl⟩, isDue⟩
      taken := by
        intro now text polled
        rw [pollFilter_eq, polled]
      accepted := by
        intro now text polled accepted
        obtain ⟨enabled, isFilter, visible⟩ :=
          (resultsFrom_pollFilter options polled).of_accepts accepted
        refine ⟨enabled, isFilter, fun entry member => ?_⟩
        rw [filtered now entry member, visible]
      refused := by
        intro now text polled refused
        obtain ⟨isError, visible⟩ := (resultsFrom_pollFilter options polled).of_not_accepts refused
        refine ⟨isError, fun entry member => ?_⟩
        rw [filtered now entry member, visible]
      untaken := by
        intro now polled
        rw [pollFilter_eq, polled]
      seen := by
        intro now text polled entry member
        rw [filtered now entry member, pollFilter_eq, polled]
        exact Filter.isVisible_setText_congr same text entry.text
      finished := by
        intro now text polled
        rw [pollFilter_eq, polled]
        rfl
      deadline_iff := by
        intro due
        rw [Debouncer.deadline_eq_some_iff]
        exact exists_congr fun text => pending_iff
      lastTyped_iff := fun text time => lastTyped_iff
      once := polledTexts_sublist _ operations
      superseded := fun operation later replaces => polledTexts_perform_sublist replaces later }

-- The poll at 350 is late enough for the first text but not for the one that replaced it.
example :
    (ofOptions {}).polledTexts
      [.typeFilter "e" 0, .pollFilter 200, .typeFilter "err" 200, .pollFilter 350, .pollFilter 500,
        .pollFilter 900] = ["err"] := by decide +kernel

end Session
end TailView
