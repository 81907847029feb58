import TailView.Proofs.Session.Batches
import TailView.Session.Loop

/-!
# The loop serves every wish

While no server can be reached, the loop does to the session what one failed attempt does and then
what the user asks for, wish by wish, until the user leaves.  The run has to be over before the next
attempt is due and before typing has paused for long enough; then there is only one thing that the
loop can do at a time.
-/

namespace TailView
namespace Session

variable {start : Session} {reason : String} {moments : List Moment}

/-! ## How far the loop has come -/

/-- At a time the run has not lasted as long as the delay before the next attempt or as the quiet
time for typing, and the text that was typed before is not due. -/
structure Brief (start : Session) (startTime now : Nat) : Prop where
  /-- The next attempt is not due. -/
  reconnect : now < startTime + start.connection.closed.delay
  /-- What is typed in the run is not due. -/
  typing : now < startTime + start.typed.quiet
  /-- What was typed before is not due. -/
  typed : ∀ due, start.typed.deadline = some due → now < due

theorem Brief.mono
    {startTime earlier now : Nat}
    (brief : Brief start startTime now)
    (before : earlier ≤ now) :
    Brief start startTime earlier where
  reconnect := Nat.lt_of_le_of_lt before brief.reconnect
  typing := Nat.lt_of_le_of_lt before brief.typing
  typed due waits := Nat.lt_of_le_of_lt before (brief.typed due waits)

/-- In a brief run no typed text is due. -/
theorem Brief.lt_deadline
    {startTime now due : Nat}
    {served : List (Control × Nat)}
    (brief : Brief start startTime now)
    (timely : ∀ wish ∈ served, startTime ≤ wish.2)
    (waits : (start.run (offlineHistory reason served)).typed.deadline = some due) :
    now < due := by
  induction served using List.reverseRecOn with
  | nil =>
      have untouched : (start.run (offlineHistory reason [])).typed = start.typed :=
        typed_note _ _
      exact brief.typed due (untouched ▸ waits)
  | append_singleton served wish inductionHypothesis =>
      rw [List.forall_mem_append, List.forall_mem_singleton] at timely
      have quiet := quiet_run start (offlineHistory reason served)
      rw [offlineHistory_append, List.map_singleton, run_concat, typed_perform] at waits
      split at waits
      · next text time typed =>
          have isWish : time = wish.2 := by
            cases control : wish.1 <;> rw [control] at typed <;> cases typed
            rfl
          rw [Debouncer.deadline_push, quiet, isWish] at waits
          have later := timely.2
          have notDue := brief.typing
          have isDue := Option.some.inj waits
          omega
      · cases waits
      · exact inductionHypothesis timely.1 waits

namespace Loop

variable {startTime work : Nat} {wishes : List Control} {loop next : Loop} {event : Event}

/-! ### What an event does -/

theorem of_step?_dial (step : loop.step? reason .dial = some next) :
    loop.stage = .ready ∧
      next = { loop.render loop.session.dial.refresh with stage := .dialling } := by
  simp only [step?] at step
  split at step
  · next stage => exact ⟨stage, (Option.some.inj step).symm⟩
  · cases step

theorem of_step?_fail (step : loop.step? reason .fail = some next) :
    loop.stage = .dialling ∧
      next = { loop.render (loop.session.disconnected reason).refresh with
        stage := .waiting (loop.now +
          (loop.session.disconnected reason).refresh.session.connection.delay) } := by
  simp only [step?] at step
  split at step
  · next stage => exact ⟨stage, (Option.some.inj step).symm⟩
  · cases step

theorem of_step?_serve (step : loop.step? reason .serve = some next) :
    ∃ wake control rest,
      loop.stage = .waiting wake ∧ loop.listening = true ∧ loop.wishes = control :: rest ∧
        next =
          if control = .quit then { loop with stage := .left, wishes := rest }
          else { loop.render (loop.session.serveOne control loop.now) with wishes := rest } := by
  simp only [step?] at step
  split at step
  · next wake rest stage listening wishes =>
      exact ⟨wake, .quit, rest, stage, listening, wishes, (Option.some.inj step).symm⟩
  · next wake control rest notQuit stage listening wishes =>
      refine ⟨wake, control, rest, stage, listening, wishes, ?_⟩
      rw [if_neg notQuit]
      exact (Option.some.inj step).symm
  · cases step

theorem of_step?_hangUp (step : loop.step? reason .hangUp = some next) :
    ∃ wake,
      loop.stage = .waiting wake ∧ loop.listening = true ∧ loop.wishes = [] ∧
        next = { loop.render loop.session.takeOutbound.refresh with listening := false } := by
  simp only [step?] at step
  split at step
  · next wake stage listening wishes =>
      exact ⟨wake, stage, listening, wishes, (Option.some.inj step).symm⟩
  · cases step

theorem of_step?_applyFilter (step : loop.step? reason .applyFilter = some next) :
    ∃ wake due,
      loop.stage = .waiting wake ∧ loop.session.typed.deadline = some due ∧ due ≤ loop.now ∧
        next = loop.render (loop.session.pollFilter loop.now).takeOutbound.refresh := by
  simp only [step?] at step
  split at step
  · next wake due stage waits =>
      obtain ⟨isDue, polled⟩ := Option.ite_none_right_eq_some.mp step
      exact ⟨wake, due, stage, waits, isDue, (Option.some.inj polled).symm⟩
  · cases step

theorem of_step?_wake (step : loop.step? reason .wake = some next) :
    ∃ wake,
      loop.stage = .waiting wake ∧ wake ≤ loop.now ∧ next = { loop with stage := .ready } := by
  simp only [step?] at step
  split at step
  · next wake stage =>
      obtain ⟨isDue, woken⟩ := Option.ite_none_right_eq_some.mp step
      exact ⟨wake, stage, isDue, (Option.some.inj woken).symm⟩
  · cases step

/-! ### On the way -/

/-- How far the loop has come when it has done a number of things: it stands somewhere on the way
through the wishes in front of the one to leave. -/
inductive Underway (start : Session) (reason : String) (startTime : Nat) (wishes : List Control) :
    Nat → Loop → Prop
  | ready {later : List Control} {now : Nat} :
      startTime ≤ now →
      Underway start reason startTime wishes 0
        { session := start, wishes := wishes ++ .quit :: later, now }
  | dialling {later : List Control} {moments : List Moment} {now : Nat} :
      startTime ≤ now →
      Rendered start [.dial] moments →
      Underway start reason startTime wishes 1
        { session := start.shownAfter [.dial], stage := .dialling,
          wishes := wishes ++ .quit :: later, moments, now }
  | waiting {served : List (Control × Nat)} {rest later : List Control} {wake : Nat}
      {moments : List Moment} {now : Nat} :
      served.map (·.1) ++ rest = wishes →
      (∀ wish ∈ served, startTime ≤ wish.2 ∧ wish.2 ≤ now) →
      startTime ≤ now →
      startTime + start.connection.closed.delay ≤ wake →
      Rendered start (offlineHistory reason served) moments →
      Underway start reason startTime wishes (served.length + 2)
        { session := start.shownAfter (offlineHistory reason served), stage := .waiting wake,
          wishes := rest ++ .quit :: later, moments, now }
  | left {served : List (Control × Nat)} {later : List Control} {moments : List Moment}
      {now : Nat} :
      served.map (·.1) = wishes →
      (∀ wish ∈ served, startTime ≤ wish.2 ∧ wish.2 ≤ now) →
      Rendered start (offlineHistory reason served) moments →
      Underway start reason startTime wishes (served.length + 3)
        { session := start.shownAfter (offlineHistory reason served), stage := .left,
          wishes := later, moments, now }

theorem Underway.pass
    (underway : Underway start reason startTime wishes work loop)
    (time : Nat) :
    Underway start reason startTime wishes work { loop with now := loop.now + time } := by
  have longer : ∀ {served : List (Control × Nat)} {now : Nat},
      (∀ wish ∈ served, startTime ≤ wish.2 ∧ wish.2 ≤ now) →
        ∀ wish ∈ served, startTime ≤ wish.2 ∧ wish.2 ≤ now + time :=
    fun timely wish member =>
      ⟨(timely wish member).1, Nat.le_add_right_of_le (timely wish member).2⟩
  cases underway with
  | ready began => exact .ready (Nat.le_add_right_of_le began)
  | dialling began rendered => exact .dialling (Nat.le_add_right_of_le began) rendered
  | waiting served_eq timely began late rendered =>
      exact .waiting served_eq (longer timely) (Nat.le_add_right_of_le began) late rendered
  | left served_eq timely rendered => exact .left served_eq (longer timely) rendered

/-- What the user asks for comes behind the wish to leave. -/
theorem Underway.ask
    (underway : Underway start reason startTime wishes work loop)
    (control : Control) :
    Underway start reason startTime wishes work
      { loop with wishes := loop.wishes ++ [control] } := by
  cases underway with
  | ready began =>
      simp only [List.append_assoc, List.cons_append]
      exact .ready began
  | dialling began rendered =>
      simp only [List.append_assoc, List.cons_append]
      exact .dialling began rendered
  | waiting served_eq timely began late rendered =>
      simp only [List.append_assoc, List.cons_append]
      exact .waiting served_eq timely began late rendered
  | left served_eq timely rendered => exact .left served_eq timely rendered

/-- When the attempt has failed, no wish has been served, and the next attempt is due later than the
delay after the start. -/
theorem Underway.fail
    {later : List Control}
    {now : Nat}
    (began : startTime ≤ now)
    (rendered : Rendered start [.dial] moments) :
    Underway start reason startTime wishes 2
      { session := ((start.shownAfter [.dial]).disconnected reason).refresh.session
        stage := .waiting
          (now + ((start.shownAfter [.dial]).disconnected reason).refresh.session.connection.delay)
        wishes := wishes ++ .quit :: later
        moments := moments ++ [((start.shownAfter [.dial]).disconnected reason).refresh]
        now } := by
  have failed := rendered.disconnected (List.cons_ne_nil _ _) reason
  have closed : (start.shownAfter (offlineHistory reason [])).connection =
      start.connection.closed :=
    connection_disconnected start.dial reason
  have nothingServed : ([] : List (Control × Nat)).map (·.1) ++ wishes = wishes := rfl
  have late : startTime + start.connection.closed.delay ≤
      now + (start.shownAfter (offlineHistory reason [])).connection.delay := by
    rw [closed]
    exact Nat.add_le_add_right began _
  rw [refresh_disconnected_shownAfter start [.dial] reason]
  exact .waiting nothingServed (List.forall_mem_nil _) began late failed

/-- One more wish is served. -/
theorem Underway.serveOne
    {served : List (Control × Nat)}
    {control : Control}
    {rest later : List Control}
    {wake now : Nat}
    (served_eq : served.map (·.1) ++ control :: rest = wishes)
    (timely : ∀ wish ∈ served, startTime ≤ wish.2 ∧ wish.2 ≤ now)
    (began : startTime ≤ now)
    (late : startTime + start.connection.closed.delay ≤ wake)
    (rendered : Rendered start (offlineHistory reason served) moments) :
    Underway start reason startTime wishes (served.length + 3)
      { session :=
          ((start.shownAfter (offlineHistory reason served)).serveOne control now).session
        stage := .waiting wake
        wishes := rest ++ .quit :: later
        moments := moments ++ [(start.shownAfter (offlineHistory reason served)).serveOne control now]
        now } := by
  have history : offlineHistory reason (served ++ [(control, now)]) =
      offlineHistory reason served ++ [.handle control now] :=
    offlineHistory_append reason served _
  have oneMore := rendered.serveOne (List.cons_ne_nil _ _) control now
  have servedOneMore : (served ++ [(control, now)]).map (·.1) ++ rest = wishes := by
    rw [List.map_append, List.append_assoc]
    exact served_eq
  have timelyOneMore : ∀ wish ∈ served ++ [(control, now)], startTime ≤ wish.2 ∧ wish.2 ≤ now := by
    rw [List.forall_mem_append, List.forall_mem_singleton]
    exact ⟨timely, began, Nat.le_refl now⟩
  rw [← history] at oneMore
  have count : served.length + 3 = (served ++ [(control, now)]).length + 2 := by
    rw [List.length_append, List.length_singleton]
  rw [serveOne_shownAfter, ← history, count]
  exact .waiting servedOneMore timelyOneMore began late oneMore

/-- Whatever can happen in a brief run is the next thing on the way. -/
theorem Underway.step
    (underway : Underway start reason startTime wishes work loop)
    (stays : .quit ∉ wishes)
    (step : loop.step? reason event = some next)
    (brief : Brief start startTime next.now) :
    Underway start reason startTime wishes (work + if event.isWork then 1 else 0) next := by
  cases event with
  | pass time =>
      cases step
      exact underway.pass time
  | ask control =>
      obtain ⟨-, asked⟩ := Option.ite_none_right_eq_some.mp step
      cases asked
      exact underway.ask control
  | dial =>
      obtain ⟨stage, rfl⟩ := of_step?_dial step
      cases underway with
      | ready began => exact .dialling began (rendered_dial start)
      | _ => cases stage
  | fail =>
      obtain ⟨stage, rfl⟩ := of_step?_fail step
      cases underway with
      | dialling began rendered => exact .fail began rendered
      | _ => cases stage
  | serve =>
      obtain ⟨wake, control, rest, stage, -, front, rfl⟩ := of_step?_serve step
      cases underway with
      | @waiting served remaining later wake moments now served_eq timely began late rendered =>
          cases remaining with
          | nil =>
              cases front
              rw [List.append_nil] at served_eq
              exact .left served_eq timely rendered
          | cons first remaining =>
              cases front
              have notQuit : control ≠ .quit := by
                rintro rfl
                exact stays (served_eq ▸ List.mem_append_right _ List.mem_cons_self)
              rw [if_neg notQuit]
              exact .serveOne served_eq timely began late rendered
      | _ => cases stage
  | hangUp =>
      obtain ⟨wake, stage, -, noWish, -⟩ := of_step?_hangUp step
      cases underway with
      | waiting => exact absurd noWish (List.append_ne_nil_of_right_ne_nil _ (List.cons_ne_nil _ _))
      | _ => cases stage
  | applyFilter =>
      obtain ⟨wake, due, stage, waits, isDue, rfl⟩ := of_step?_applyFilter step
      cases underway with
      | waiting served_eq timely began late rendered =>
          have notDue := brief.lt_deadline (fun wish member => (timely wish member).1) waits
          exact absurd isDue (Nat.not_le_of_lt notDue)
      | _ => cases stage
  | wake =>
      obtain ⟨wake, stage, isDue, rfl⟩ := of_step?_wake step
      cases underway with
      | waiting served_eq timely began late rendered =>
          cases stage
          exact absurd (Nat.le_trans late isDue) (Nat.not_le_of_lt brief.reconnect)
      | _ => cases stage

theorem now_le_of_step? (step : loop.step? reason event = some next) : loop.now ≤ next.now := by
  cases event with
  | pass time =>
      cases step
      exact Nat.le_add_right _ _
  | ask control =>
      obtain ⟨-, asked⟩ := Option.ite_none_right_eq_some.mp step
      cases asked
      exact Nat.le_refl _
  | dial =>
      obtain ⟨-, rfl⟩ := of_step?_dial step
      exact Nat.le_refl _
  | fail =>
      obtain ⟨-, rfl⟩ := of_step?_fail step
      exact Nat.le_refl _
  | serve =>
      obtain ⟨_, _, _, -, -, -, rfl⟩ := of_step?_serve step
      split <;> exact Nat.le_refl _
  | hangUp =>
      obtain ⟨_, -, -, -, rfl⟩ := of_step?_hangUp step
      exact Nat.le_refl _
  | applyFilter =>
      obtain ⟨_, _, -, -, -, rfl⟩ := of_step?_applyFilter step
      exact Nat.le_refl _
  | wake =>
      obtain ⟨_, -, -, rfl⟩ := of_step?_wake step
      exact Nat.le_refl _

theorem now_le_of_run? {events : List Event} (ran : loop.run? reason events = some next) :
    loop.now ≤ next.now := by
  induction events generalizing loop with
  | nil =>
      cases ran
      exact Nat.le_refl _
  | cons event rest inductionHypothesis =>
      obtain ⟨between, step, ran⟩ := Option.bind_eq_some_iff.mp ran
      exact Nat.le_trans (now_le_of_step? step) (inductionHypothesis ran)

/-- A brief run stays on the way. -/
theorem Underway.run
    {events : List Event}
    (underway : Underway start reason startTime wishes work loop)
    (stays : .quit ∉ wishes)
    (ran : loop.run? reason events = some next)
    (brief : Brief start startTime next.now) :
    Underway start reason startTime wishes (work + events.countP Event.isWork) next := by
  induction events generalizing loop work with
  | nil =>
      cases ran
      exact underway
  | cons event rest inductionHypothesis =>
      obtain ⟨between, step, ran⟩ := Option.bind_eq_some_iff.mp ran
      have oneMore := underway.step stays step (brief.mono (now_le_of_run? ran))
      have further := inductionHypothesis oneMore ran
      rwa [List.countP_cons, Nat.add_comm (rest.countP _), ← Nat.add_assoc]

/-- The way has an end. -/
theorem Underway.work_le (underway : Underway start reason startTime wishes work loop) :
    work ≤ wishes.length + 3 := by
  cases underway with
  | ready => exact Nat.zero_le _
  | dialling => omega
  | waiting served_eq =>
      rw [← served_eq, List.length_append, List.length_map]
      omega
  | left served_eq => rw [← served_eq, List.length_map]

end Loop

/-! ## A run in which no time passes -/

theorem lastSession_cons (session : Session) (moment : Moment) (rest : List Moment) :
    lastSession session (moment :: rest) = lastSession moment.session rest := by
  cases rest with
  | nil => rfl
  | cons next others =>
      rw [lastSession, lastSession, List.getLast?_cons_cons]
      rfl

theorem serve_cons
    {control : Control}
    (notQuit : control ≠ .quit)
    (now : Nat)
    (session : Session)
    (rest : List Control) :
    serve now session (control :: rest) =
      (session.serveOne control now :: (serve now (session.serveOne control now).session rest).1,
        (serve now (session.serveOne control now).session rest).2) := by
  cases control with
  | quit => exact absurd rfl notQuit
  | openFile | filter | toggleErrorFocus | toggleFollow | stop | reload => rfl

theorem step?_serve
    {control : Control}
    (notQuit : control ≠ .quit)
    (reason : String)
    (session : Session)
    (wake now : Nat)
    (rest : List Control)
    (moments : List Moment) :
    Loop.step? reason { session, stage := .waiting wake, wishes := control :: rest, moments, now }
        .serve =
      some
        { session := (session.serveOne control now).session, stage := .waiting wake,
          wishes := rest, moments := moments ++ [session.serveOne control now], now } := by
  cases control with
  | quit => exact absurd rfl notQuit
  | openFile | filter | toggleErrorFocus | toggleFollow | stop | reload => rfl

theorem run?_serve
    {controls : List Control}
    (leaves : .quit ∈ controls)
    (reason : String)
    (session : Session)
    (wake now : Nat)
    (moments : List Moment) :
    (serve now session controls).2 = true ∧
      ∃ count later,
        Loop.run? reason { session, stage := .waiting wake, wishes := controls, moments, now }
            (List.replicate count .serve) =
          some
            { session := lastSession session (serve now session controls).1, stage := .left,
              wishes := later, moments := moments ++ (serve now session controls).1, now } := by
  induction controls generalizing session moments with
  | nil => cases leaves
  | cons control rest inductionHypothesis =>
      by_cases isQuit : control = .quit
      · subst isQuit
        refine ⟨rfl, 1, rest, ?_⟩
        rw [serve, List.append_nil]
        rfl
      · have leavesLater : .quit ∈ rest := by simpa [Ne.symm isQuit] using leaves
        obtain ⟨left, count, later, ran⟩ := inductionHypothesis leavesLater
          (session.serveOne control now).session (moments ++ [session.serveOne control now])
        rw [serve_cons isQuit, lastSession_cons]
        refine ⟨left, count + 1, later, ?_⟩
        rw [List.replicate_succ, Loop.run?, step?_serve isQuit, Option.bind_some, ran,
          List.append_assoc]
        rfl

/-- Nothing but work is left to be done: from everywhere on the way the loop can go on at once until
the user has left. -/
theorem Loop.Underway.exists_run_left
    {startTime work : Nat}
    {wishes : List Control}
    {loop : Loop}
    (underway : Loop.Underway start reason startTime wishes work loop) :
    ∃ more last,
      (∀ event ∈ more, Loop.Event.isWork event = true) ∧
        loop.run? reason more = some last ∧ last.stage = .left ∧ last.now = loop.now := by
  have serving : ∀ count, ∀ event ∈ List.replicate count Loop.Event.serve, event.isWork = true :=
    fun count event member => List.eq_of_mem_replicate member ▸ rfl
  have leaves : ∀ rest later : List Control, .quit ∈ rest ++ .quit :: later :=
    fun rest later => List.mem_append_right rest List.mem_cons_self
  cases underway with
  | @ready later now =>
      let failed := (start.dial.refresh.session.disconnected reason).refresh
      obtain ⟨-, count, remaining, ran⟩ := run?_serve (leaves wishes later) reason failed.session
        (now + failed.session.connection.delay) now [start.dial.refresh, failed]
      refine ⟨.dial :: .fail :: List.replicate count .serve, _, ?_, ran, rfl, rfl⟩
      rw [List.forall_mem_cons, List.forall_mem_cons]
      exact ⟨rfl, rfl, serving count⟩
  | @dialling later moments now =>
      let failed := ((start.shownAfter [.dial]).disconnected reason).refresh
      obtain ⟨-, count, remaining, ran⟩ := run?_serve (leaves wishes later) reason failed.session
        (now + failed.session.connection.delay) now (moments ++ [failed])
      refine ⟨.fail :: List.replicate count .serve, _, ?_, ran, rfl, rfl⟩
      rw [List.forall_mem_cons]
      exact ⟨rfl, serving count⟩
  | @waiting served rest later wake moments now =>
      obtain ⟨-, count, remaining, ran⟩ := run?_serve (leaves rest later) reason
        (start.shownAfter (offlineHistory reason served)) wake now moments
      exact ⟨List.replicate count .serve, _, serving count, ran, rfl, rfl⟩
  | left => exact ⟨[], _, List.forall_mem_nil _, rfl, rfl, rfl⟩

/-- A session that is served without a server at one moment is served by a run of the loop in which
no time passes. -/
theorem run?_eq_runOffline
    {controls : List Control}
    (leaves : .quit ∈ controls)
    (session : Session)
    (reason : String)
    (now : Nat) :
    (session.runOffline reason controls now).left = true ∧
      ∃ events later,
        Loop.run? reason { session, wishes := controls, now } events =
          some
            { session := (session.runOffline reason controls now).last, stage := .left,
              wishes := later, moments := (session.runOffline reason controls now).moments,
              now } := by
  let dialling := session.dial.refresh
  let failed := (dialling.session.disconnected reason).refresh
  obtain ⟨left, count, later, ran⟩ := run?_serve leaves reason failed.session
    (now + failed.session.connection.delay) now [dialling, failed]
  exact ⟨left, .dial :: .fail :: List.replicate count .serve, later, ran⟩

/-! ## Runs -/

/-- What was done in a run that the user has left, after the wishes in front of the one to leave
were served. -/
structure Serves (start : Session) (reason : String) (startTime : Nat) (wishes : List Control)
    (loop : Loop) (served : List (Control × Nat)) : Prop where
  /-- Each wish was served, in order. -/
  wishes_eq : served.map (·.1) = wishes
  /-- It was served at a time of the run. -/
  timely : ∀ wish ∈ served, startTime ≤ wish.2 ∧ wish.2 ≤ loop.now
  /-- The session is the one of the plain history; its changes were all shown. -/
  session_eq : loop.session = start.shownAfter (offlineHistory reason served)
  /-- The display was refreshed after each operation of that history. -/
  rendered : Rendered start (offlineHistory reason served) loop.moments
  /-- It got every change once and in order: those that waited before the run, and those of the
  run. -/
  updates_eq : loop.moments.flatMap (·.updates) =
    start.updates.toList ++ (start.takeUpdates.run (offlineHistory reason served)).updates.toList
  /-- Once a wish was served, no message waits. -/
  silent : ∀ moment ∈ loop.moments.drop 2, moment.session.outbound = #[]
  /-- A command that was asked for and not ended since is the current one, and the only message when
  the connection opens. -/
  replays : ∀ before wish after command,
    served = before ++ wish :: after →
    (start.run (offlineHistory reason before)).command? wish.1 = some command →
    (∀ later ∈ after, later.1.presents = true) →
      loop.session.connection.current = some command ∧
        loop.session.dial.connected.outbound = #[command.wire]

/-- Before a wish to leave stand the wishes that are served. -/
theorem exists_eq_append_quit {controls : List Control} (leaves : .quit ∈ controls) :
    ∃ later, controls = controls.takeWhile (· ≠ .quit) ++ .quit :: later := by
  induction controls with
  | nil => cases leaves
  | cons control rest inductionHypothesis =>
      by_cases isQuit : control = .quit
      · exact ⟨rest, by simp [isQuit]⟩
      · obtain ⟨later, split⟩ := inductionHypothesis (by simpa [Ne.symm isQuit] using leaves)
        refine ⟨later, ?_⟩
        rw [List.takeWhile_cons_of_pos (by simpa using isQuit), List.cons_append, ← split]

theorem quit_not_mem_takeWhile (controls : List Control) :
    .quit ∉ controls.takeWhile (· ≠ .quit) := by
  intro member
  simpa using List.mem_takeWhile_imp member

/-- The user has left when the way is at its end. -/
theorem Loop.Underway.serves
    {startTime work : Nat}
    {wishes : List Control}
    {loop : Loop}
    (underway : Loop.Underway start reason startTime wishes work loop)
    (left : loop.stage = .left) :
    ∃ served, Serves start reason startTime wishes loop served := by
  cases underway with
  | @left served later moments now served_eq timely rendered =>
      refine ⟨served, served_eq, timely, rfl, rendered, ?_, rendered.outbound_eq, ?_⟩
      · rw [rendered.flatMap_updates (List.cons_ne_nil _ _),
          start.updates_run (takes_eq_false_of_mem_offlineHistory reason served)]
      · rintro before wish after command rfl asks present
        have current := current_offlineHistory asks present
        have dropped := start.waitingAfter_offlineHistory reason
          (List.append_ne_nil_of_right_ne_nil before (List.cons_ne_nil wish after))
        exact ⟨current, outbound_connected dropped current⟩
  | _ => cases left

/-- Without a server the loop serves the wishes in front of the one to leave, and nothing behind it:
it does no more than there is to do, from wherever it stands it can go on at once until the user has
left, and what it has done then is what the plain history says.  The run has to be brief. -/
theorem run_without_server
    {controls : List Control}
    {startTime : Nat}
    {events : List Loop.Event}
    {loop : Loop}
    (leaves : .quit ∈ controls)
    (ran : Loop.run? reason { session := start, wishes := controls, now := startTime } events =
      some loop)
    (brief : Brief start startTime loop.now) :
    events.countP Loop.Event.isWork ≤ (controls.takeWhile (· ≠ .quit)).length + 3 ∧
      (∃ more last,
        (∀ event ∈ more, Loop.Event.isWork event = true) ∧
          loop.run? reason more = some last ∧ last.stage = .left ∧ last.now = loop.now) ∧
      (loop.stage = .left →
        ∃ served,
          Serves start reason startTime (controls.takeWhile (· ≠ .quit)) loop served) := by
  obtain ⟨later, split⟩ := exists_eq_append_quit leaves
  have stays := quit_not_mem_takeWhile controls
  generalize controls.takeWhile (· ≠ .quit) = wishes at *
  subst split
  have first : Loop.Underway start reason startTime wishes 0
      { session := start, wishes := wishes ++ .quit :: later, now := startTime } :=
    .ready (Nat.le_refl _)
  have last := first.run stays ran brief
  rw [Nat.zero_add] at last
  exact ⟨last.work_le, last.exists_run_left, last.serves⟩

/-- A file is opened while an update waits from before and no server can be reached; what is asked
for after the wish to leave is not served. -/
theorem run_without_server_opens :
    let start := (ofOptions {}).toggleErrorFocus
    let wish := Control.openFile "a.log" Amount.standard
    let events : List Loop.Event :=
      [.dial, .pass 5, .fail, .serve, .pass 7, .ask .reload, .serve, .serve]
    ∃ loop,
      Loop.run? "refused"
          { session := start, wishes := [wish, .toggleErrorFocus, .quit, .stop], now := 3 } events =
        some loop ∧
      Brief start 3 loop.now ∧ loop.stage = .left ∧
      loop.session.connection.current = some ⟨.follow, Amount.standard, "a.log"⟩ ∧
      ∃ changes, loop.moments.flatMap (·.updates) = .redraw :: changes := by
  intro start wish events
  obtain ⟨loop, ran, stage, now⟩ :
      ∃ loop,
        Loop.run? "refused"
            { session := start, wishes := [wish, .toggleErrorFocus, .quit, .stop], now := 3 } events =
          some loop ∧ loop.stage = .left ∧ loop.now = 15 :=
    ⟨_, rfl, rfl, rfl⟩
  have leaves : Control.quit ∈ [wish, .toggleErrorFocus, .quit, .stop] := by simp
  have brief : Brief start 3 loop.now := by
    rw [now]
    exact ⟨by decide, by decide, nofun⟩
  obtain ⟨-, -, ended⟩ := run_without_server leaves ran brief
  obtain ⟨served, serves⟩ := ended stage
  have inOrder : served.map (·.1) = [wish, .toggleErrorFocus] := serves.wishes_eq
  obtain ⟨first, rest, rfl, isWish, others⟩ := List.map_eq_cons_iff.mp inOrder
  have look : ∀ later ∈ rest, later.1.presents = true := by
    intro later member
    have isToggle : later.1 ∈ [Control.toggleErrorFocus] := others ▸ List.mem_map_of_mem member
    rw [List.mem_singleton.mp isToggle]
    rfl
  have asks : (start.run (offlineHistory "refused" [])).command? first.1 =
      some ⟨.follow, Amount.standard, "a.log"⟩ := by
    rw [isWish]
    rfl
  obtain ⟨current, -⟩ := serves.replays [] first rest _ rfl asks look
  exact ⟨loop, ran, brief, stage, current, _, serves.updates_eq⟩

end Session
end TailView
