import TailView.Proofs.Session.Presentation
import TailView.Proofs.Session.Queues
import TailView.Proofs.Session.Typing
import TailView.Session.Offline

/-!
# What the display gets without a server

While no server can be reached, the changes are taken from their queue after each operation and the
messages after each wish of the user.  What waits in a queue decides nothing, so the session is the
one that a plain history gives, and the batches on the display join to the changes of that history.
A command that the user asks for meanwhile waits in the session, not in a queue, and is sent when the
connection opens.
-/

namespace TailView

/-- Whether an operation does what the user asked for. -/
def Operation.serves : Operation → Bool
  | .handle .. => true
  | _ => false

namespace Session

variable {start session : Session} {reason : String} {operations : List Operation}
  {moments : List Moment} {control : Control} {command : Command}

/-! ## Batches -/

/-- The messages that wait after a history without a server: serving a wish empties the queue. -/
def waitingAfter (start : Session) (operations : List Operation) : Array String :=
  if operations.any Operation.serves then #[] else start.outbound

/-- The session after a history without a server when every change has been shown. -/
def shownAfter (start : Session) (operations : List Operation) : Session :=
  { start.run operations with outbound := start.waitingAfter operations, updates := #[] }

/-- The display is refreshed after each operation of a history: it gets the session without the
queued changes, and up to then it has got all changes that were queued, in order. -/
inductive Rendered (start : Session) : List Operation → List Moment → Prop
  | nil : Rendered start [] []
  | next {operations : List Operation} {moments : List Moment} (operation : Operation)
      (moment : Moment) :
      Rendered start operations moments →
      moment.session = start.shownAfter (operations ++ [operation]) →
      (moments ++ [moment]).flatMap (·.updates) =
        (start.run (operations ++ [operation])).updates.toList →
      Rendered start (operations ++ [operation]) (moments ++ [moment])

namespace Rendered

/-- All changes were shown. -/
theorem flatMap_updates (rendered : Rendered start operations moments) (nonempty : operations ≠ []) :
    moments.flatMap (·.updates) = (start.run operations).updates.toList := by
  cases rendered with
  | nil => exact absurd rfl nonempty
  | next operation moment rendered session_eq updates_eq => exact updates_eq

theorem length_eq (rendered : Rendered start operations moments) :
    moments.length = operations.length := by
  induction rendered with
  | nil => rfl
  | next operation moment rendered session_eq updates_eq inductionHypothesis =>
      rw [List.length_append, List.length_append, inductionHypothesis]
      rfl

/-- Each moment has the session after the operations up to it. -/
theorem session_eq_of_getElem?
    (rendered : Rendered start operations moments)
    {count : Nat}
    {moment : Moment}
    (found : moments[count]? = some moment) :
    moment.session = start.shownAfter (operations.take (count + 1)) := by
  induction rendered with
  | nil => cases found
  | next operation last rendered session_eq updates_eq inductionHypothesis =>
      have sameLength := rendered.length_eq
      rw [List.getElem?_append] at found
      split at found
      · next earlier =>
          rw [List.take_append_of_le_length (by omega)]
          exact inductionHypothesis found
      · next notEarlier =>
          obtain ⟨atEnd, rfl⟩ := List.getElem?_eq_some_iff.mp found
          rw [List.length_singleton] at atEnd
          rw [List.take_of_length_le (by rw [List.length_append, List.length_singleton]; omega)]
          simpa using session_eq

end Rendered

/-- Taking what is queued between operations makes no difference to what an operation does. -/
theorem perform_shownAfter
    (start : Session)
    (operations : List Operation)
    {operation : Operation}
    (leaves : operation.takes = false) :
    ∃ bare : Session,
      (start.shownAfter operations).perform operation =
          bare.behind (start.waitingAfter operations) #[] ∧
        start.run (operations ++ [operation]) =
          bare.behind (start.run operations).outbound (start.run operations).updates := by
  refine ⟨(start.run operations).takeOutbound.takeUpdates.perform operation, ?_, ?_⟩
  · rw [← perform_behind _ leaves]
    simp [shownAfter, behind, takeOutbound, takeUpdates]
  · rw [← perform_behind _ leaves, behind_taken, run_concat]

/-- The changes of one more operation come behind those that were shown. -/
theorem updates_perform_shownAfter
    (start : Session)
    (operations : List Operation)
    {operation : Operation}
    (leaves : operation.takes = false) :
    (start.run operations).updates.toList ++
        ((start.shownAfter operations).perform operation).updates.toList =
      (start.run (operations ++ [operation])).updates.toList := by
  obtain ⟨bare, shown, plain⟩ := start.perform_shownAfter operations leaves
  rw [shown, plain]
  simp [behind]

/-- Up to its queues the session is the one of the plain history. -/
theorem perform_shownAfter_eq
    (start : Session)
    (operations : List Operation)
    {operation : Operation}
    (leaves : operation.takes = false) :
    { (start.shownAfter operations).perform operation with
        outbound := start.waitingAfter (operations ++ [operation]), updates := #[] } =
      start.shownAfter (operations ++ [operation]) := by
  obtain ⟨bare, shown, plain⟩ := start.perform_shownAfter operations leaves
  rw [shown, shownAfter, plain]
  rfl

/-- The first batch has the changes that waited from before. -/
theorem rendered_dial (start : Session) : Rendered start [.dial] [start.dial.refresh] := by
  refine .next .dial _ .nil rfl ?_
  rw [List.nil_append, List.flatMap_singleton]
  rfl

theorem connection_disconnected (session : Session) (reason : String) :
    (session.disconnected reason).connection = session.connection.closed :=
  congrArg Link.connection (link_perform session (.disconnected reason))

/-- A failed attempt sends nothing. -/
theorem refresh_disconnected_shownAfter
    (start : Session)
    (operations : List Operation)
    (reason : String) :
    ((start.shownAfter operations).disconnected reason).refresh.session =
      start.shownAfter (operations ++ [.disconnected reason]) := by
  have silent : ((start.shownAfter operations).disconnected reason).outbound =
      start.waitingAfter (operations ++ [.disconnected reason]) := by
    have sends := @sends_perform (start.shownAfter operations) (.disconnected reason) nofun
    apply Array.toList_inj.mp
    refine sends.outbound_eq.trans ?_
    simp [Link.perform, waitingAfter, shownAfter, Operation.serves]
  rw [← start.perform_shownAfter_eq operations rfl, ← silent]
  rfl

/-- A wish leaves no message behind. -/
theorem serveOne_shownAfter
    (start : Session)
    (operations : List Operation)
    (control : Control)
    (now : Nat) :
    ((start.shownAfter operations).serveOne control now).session =
      start.shownAfter (operations ++ [.handle control now]) := by
  have emptied : start.waitingAfter (operations ++ [.handle control now]) = #[] := by
    simp [waitingAfter, Operation.serves]
  rw [← start.perform_shownAfter_eq operations rfl, emptied]
  rfl

/-- One more operation is one more batch. -/
theorem Rendered.extend
    {operation : Operation}
    {moment : Moment}
    (rendered : Rendered start operations moments)
    (nonempty : operations ≠ [])
    (leaves : operation.takes = false)
    (session_eq : moment.session = start.shownAfter (operations ++ [operation]))
    (updates_eq : moment.updates =
      ((start.shownAfter operations).perform operation).updates.toList) :
    Rendered start (operations ++ [operation]) (moments ++ [moment]) := by
  refine .next operation moment rendered session_eq ?_
  rw [List.flatMap_append, rendered.flatMap_updates nonempty, List.flatMap_singleton, updates_eq]
  exact start.updates_perform_shownAfter operations leaves

theorem Rendered.disconnected
    (rendered : Rendered start operations moments)
    (nonempty : operations ≠ [])
    (reason : String) :
    Rendered start (operations ++ [.disconnected reason])
      (moments ++ [((start.shownAfter operations).disconnected reason).refresh]) :=
  rendered.extend nonempty rfl (refresh_disconnected_shownAfter start operations reason) rfl

theorem Rendered.serveOne
    (rendered : Rendered start operations moments)
    (nonempty : operations ≠ [])
    (control : Control)
    (now : Nat) :
    Rendered start (operations ++ [.handle control now])
      (moments ++ [(start.shownAfter operations).serveOne control now]) :=
  rendered.extend nonempty rfl (serveOne_shownAfter start operations control now) rfl

/-! ## Without a server -/

/-- The history of an attempt that fails, and of wishes that are served at given times. -/
def offlineHistory (reason : String) (served : List (Control × Nat)) : List Operation :=
  .dial :: .disconnected reason :: served.map fun wish => .handle wish.1 wish.2

theorem offlineHistory_append (reason : String) (first second : List (Control × Nat)) :
    offlineHistory reason (first ++ second) =
      offlineHistory reason first ++ second.map fun wish => .handle wish.1 wish.2 := by
  simp [offlineHistory]

theorem takes_eq_false_of_mem_offlineHistory (reason : String) (served : List (Control × Nat)) :
    ∀ operation ∈ offlineHistory reason served, operation.takes = false := by
  rw [offlineHistory, List.forall_mem_cons, List.forall_mem_cons, List.forall_mem_map]
  exact ⟨rfl, rfl, fun _ _ => rfl⟩

/-- As soon as one wish was served, the messages were dropped. -/
theorem waitingAfter_offlineHistory
    (start : Session)
    (reason : String)
    {served : List (Control × Nat)}
    (nonempty : served ≠ []) :
    start.waitingAfter (offlineHistory reason served) = #[] := by
  obtain ⟨wish, rest, rfl⟩ := List.exists_cons_of_ne_nil nonempty
  rfl

/-- Behind the two moments of the attempt stand the wishes that were served. -/
theorem Rendered.outbound_eq
    {served : List (Control × Nat)}
    (rendered : Rendered start (offlineHistory reason served) moments) :
    ∀ moment ∈ moments.drop 2, moment.session.outbound = #[] := by
  intro moment member
  obtain ⟨count, found⟩ := List.getElem?_of_mem member
  rw [List.getElem?_drop, Nat.add_comm] at found
  have history : (offlineHistory reason served).take (count + 1 + 2) =
      offlineHistory reason (served.take (count + 1)) := by
    simp [offlineHistory, List.map_take]
  have someServed : served.take (count + 1) ≠ [] := by
    obtain ⟨valid, -⟩ := List.getElem?_eq_some_iff.mp found
    rw [rendered.length_eq] at valid
    rintro nothing
    rcases List.take_eq_nil_iff.mp nothing with isZero | rfl
    · exact absurd isZero (Nat.succ_ne_zero count)
    · exact absurd valid (Nat.not_lt_of_le (Nat.le_add_left 2 count))
  rw [rendered.session_eq_of_getElem? found, Nat.add_right_comm, history]
  exact start.waitingAfter_offlineHistory reason someServed

/-! ## The command to send when the connection opens -/

/-- The command that a wish makes the current one. -/
def command? (session : Session) : Control → Option Command
  | .openFile file amount => some ⟨.ofFollow session.follow, amount, file⟩
  | .reload =>
      session.selection.map fun shown => ⟨.ofFollow session.follow, shown.amount, shown.file⟩
  | .toggleFollow =>
      if session.follow then none
      else session.selection.map fun shown => ⟨.follow, shown.amount, shown.file⟩
  | .filter _ | .toggleErrorFocus | .stop | .quit => none

theorem current_reload
    (asks : session.command? .reload = some command) :
    session.reload.connection.current = some command := by
  obtain ⟨shown, selected, rfl⟩ := Option.map_eq_some_iff.mp asks
  rw [reload, selected]
  rfl

theorem current_handle
    (asks : session.command? control = some command)
    (now : Nat) :
    (session.handle control now).connection.current = some command := by
  cases control with
  | openFile file amount => exact asks
  | reload => exact current_reload asks
  | toggleFollow =>
      obtain ⟨notFollowing, asks⟩ := Option.ite_none_left_eq_some.mp asks
      rw [handle, toggleFollow, if_neg notFollowing]
      exact current_reload asks
  | filter | toggleErrorFocus | stop | quit => cases asks

/-- Wishes that only concern the look leave the command alone. -/
theorem link_run_of_presents
    (session : Session)
    {wishes : List (Control × Nat)}
    (present : ∀ wish ∈ wishes, wish.1.presents = true) :
    (session.run (wishes.map fun wish => .handle wish.1 wish.2)).link = session.link := by
  induction wishes generalizing session with
  | nil => rfl
  | cons wish rest inductionHypothesis =>
      rw [List.forall_mem_cons] at present
      have presents : Operation.presents (.handle wish.1 wish.2) = true := present.1
      have first : (session.perform (.handle wish.1 wish.2)).link = session.link :=
        (link_perform session _).trans (session.link.perform_of_presents presents).1
      exact (inductionHypothesis _ present.2).trans first

/-- A command that was asked for stays the current one while only the look is changed. -/
theorem current_offlineHistory
    {before after : List (Control × Nat)}
    {wish : Control × Nat}
    (asks : (start.run (offlineHistory reason before)).command? wish.1 = some command)
    (present : ∀ later ∈ after, later.1.presents = true) :
    (start.run (offlineHistory reason (before ++ wish :: after))).connection.current =
      some command := by
  rw [offlineHistory_append, run, List.foldl_append, List.map_cons, List.foldl_cons]
  have same := link_run_of_presents ((start.run (offlineHistory reason before)).handle wish.1 wish.2)
    present
  exact (congrArg (·.connection.current) same).trans (current_handle asks wish.2)

/-- The current command is what is sent when the connection opens. -/
theorem outbound_connected
    (nothing : session.outbound = #[])
    (current : session.connection.current = some command) :
    session.dial.connected.outbound = #[command.wire] := by
  have sends := sends_connected session.dial
  have greeting : session.dial.connection.greeting = [command.wire] := by
    change (session.connection.current.map Command.wire).toList = _
    rw [current]
    rfl
  apply Array.toList_inj.mp
  refine sends.outbound_eq.trans ?_
  change session.outbound.toList ++ session.dial.connection.greeting = _
  rw [nothing, greeting]
  rfl

end Session
end TailView
