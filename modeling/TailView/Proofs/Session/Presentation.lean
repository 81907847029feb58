import TailView.Proofs.Session.Alike
import TailView.Proofs.Session.Link

/-!
# What only concerns the look

The filter says which entries are seen, and the focus which view is on show.  Neither decides which
entries there are, how sections grow, what is linked, or what is sent: a history with all that left
out ends with the same entries, the same link to the server, and the same messages but for those
that keep the connection alive.
-/

namespace TailView

/-- Whether a wish of the user only concerns the look. -/
def Control.presents : Control → Bool
  | .filter _ | .toggleErrorFocus => true
  | .openFile .. | .toggleFollow | .stop | .reload | .quit => false

/-- Whether an operation only concerns the look: the filter, the focus, taking what is queued, or
keeping the connection alive. -/
def Operation.presents : Operation → Bool
  | .toggleErrorFocus | .setFilter _ | .typeFilter .. | .pollFilter _ => true
  | .heartbeat | .takeOutbound | .takeUpdates => true
  | .handle control _ => control.presents
  | _ => false

/-- A history with what only concerns the look left out. -/
def Operation.essential (operations : List Operation) : List Operation :=
  operations.filter fun operation => !operation.presents

namespace Link

variable {operation : Operation}

/-- The messages but for those that keep the connection alive. -/
def withoutPings (messages : List String) : List String :=
  messages.filter fun message => message ≠ Command.pingMessage

theorem withoutPings_append (first second : List String) :
    withoutPings (first ++ second) = withoutPings first ++ withoutPings second :=
  List.filter_append first second

/-- What only concerns the look leaves the link alone and asks for nothing. -/
theorem perform_of_presents (link : Link) (presents : operation.presents = true) :
    (link.perform operation).1 = link ∧ withoutPings (link.perform operation).2 = [] := by
  cases operation with
  | heartbeat =>
      refine ⟨rfl, ?_⟩
      change withoutPings (link.connection.sending Command.pingMessage).toList = []
      unfold Connection.sending
      split <;> rfl
  | handle control now =>
      cases control with
      | filter | toggleErrorFocus => exact ⟨rfl, rfl⟩
      | _ => cases presents
  | toggleErrorFocus | setFilter | typeFilter | pollFilter | takeOutbound | takeUpdates =>
      exact ⟨rfl, rfl⟩
  | _ => cases presents

/-- The same is asked for if what only concerns the look is left out. -/
theorem withoutPings_messages_essential (link : Link) (operations : List Operation) :
    withoutPings (link.messages (Operation.essential operations)) =
      withoutPings (link.messages operations) := by
  unfold Operation.essential
  induction operations generalizing link with
  | nil => rfl
  | cons operation rest inductionHypothesis =>
      rw [messages, withoutPings_append]
      cases presents : operation.presents with
      | true =>
          obtain ⟨unchanged, silent⟩ := link.perform_of_presents presents
          rw [List.filter_cons_of_neg (by simp [presents]), unchanged, silent, List.nil_append]
          exact inductionHypothesis link
      | false =>
          rw [List.filter_cons_of_pos (by simp [presents]), messages, withoutPings_append,
            inductionHypothesis]

end Link

namespace Session

variable {session other : Session} {operation : Operation}

theorem bytesPerLine_addLine (session : Session) (line : String) :
    (session.addLine line).bytesPerLine = session.bytesPerLine := by
  rcases session.addLine_cases line with ⟨id, _, _, grown⟩ | ⟨entry, next, _, _, entered⟩
  · rw [grown]
    exact bytesPerLine_eq_of_limits_eq (limits_growSection session id line)
  · rw [entered]
    exact bytesPerLine_eq_of_limits_eq (limits_enter session entry next)

theorem bytesPerLine_note (session : Session) (text : String) :
    (session.note text).bytesPerLine = session.bytesPerLine :=
  bytesPerLine_eq_of_limits_eq (limits_enter session _ _)

theorem bytesPerLine_foldl_addLine (session : Session) (lines : List String) :
    (lines.foldl addLine session).bytesPerLine = session.bytesPerLine := by
  induction lines generalizing session with
  | nil => rfl
  | cons line rest inductionHypothesis =>
      rw [List.foldl_cons, inductionHypothesis, bytesPerLine_addLine]

theorem bytesPerLine_receive (session : Session) (payload : Payload) :
    (session.receive payload).bytesPerLine = session.bytesPerLine := by
  cases payload with
  | binary bytes => exact bytesPerLine_foldl_addLine _ _
  | text notice =>
      rw [receive]
      split
      · rfl
      · exact bytesPerLine_note session notice
  | unsupported description => rfl

theorem bytesPerLine_endStream (session : Session) :
    session.endStream.bytesPerLine = session.bytesPerLine := by
  unfold endStream
  split
  · exact bytesPerLine_addLine _ _
  · rfl

/-- The estimated length of a line is never changed. -/
theorem bytesPerLine_perform (session : Session) (operation : Operation) :
    (session.perform operation).bytesPerLine = session.bytesPerLine := by
  have reloaded : ∀ start : Session, start.reload.bytesPerLine = start.bytesPerLine := by
    intro start
    unfold reload
    split <;> rfl
  have toggled : session.toggleFollow.bytesPerLine = session.bytesPerLine := by
    unfold toggleFollow
    split
    · rfl
    · exact reloaded _
  cases operation with
  | reload => exact reloaded session
  | toggleFollow => exact toggled
  | pollFilter now =>
      rw [perform, pollFilter]
      split <;> rfl
  | handle control now =>
      cases control with
      | toggleFollow => exact toggled
      | reload => exact reloaded session
      | _ => rfl
  | connected =>
      rw [perform, connected]
      split <;> rfl
  | disconnected reason => exact bytesPerLine_note _ _
  | receive payload => exact bytesPerLine_receive session payload
  | endStream => exact bytesPerLine_endStream session
  | note text => exact bytesPerLine_note session text
  | _ => rfl

/-- Two sessions that hold the same entries and have the same link to the server. -/
structure InStep (session other : Session) : Prop where
  /-- The same entries are held. -/
  alike : Alike 0 0 session other
  /-- The link to the server is the same. -/
  link_eq : session.link = other.link
  /-- The estimated length of a line is the same. -/
  bytesPerLine_eq : session.bytesPerLine = other.bytesPerLine

namespace InStep

theorem connection_eq (inStep : InStep session other) : session.connection = other.connection :=
  congrArg Link.connection inStep.link_eq

theorem follow_eq (inStep : InStep session other) : session.follow = other.follow :=
  congrArg Link.follow inStep.link_eq

theorem selection_eq (inStep : InStep session other) : session.selection = other.selection :=
  congrArg Link.selection inStep.link_eq

theorem alike_openFile (inStep : InStep session other) (file : String) (amount : Amount) :
    Alike 0 0 (session.openFile file amount) (other.openFile file amount) :=
  .of_openFile inStep.alike.ordered inStep.alike.otherOrdered inStep.alike.sameRule
    inStep.alike.sameNext inStep.bytesPerLine_eq file amount

theorem alike_reload (inStep : InStep session other) : Alike 0 0 session.reload other.reload := by
  unfold Session.reload
  rw [← inStep.selection_eq]
  split
  · exact inStep.alike_openFile _ _
  · exact inStep.alike

theorem alike_stop (inStep : InStep session other) : Alike 0 0 session.stop other.stop :=
  inStep.alike.resetStream.around ⟨rfl, rfl, rfl, rfl⟩ ⟨rfl, rfl, rfl, rfl⟩ rfl

theorem alike_toggleFollow (inStep : InStep session other) :
    Alike 0 0 session.toggleFollow other.toggleFollow := by
  unfold Session.toggleFollow
  rw [← inStep.follow_eq]
  split
  · exact inStep.alike_stop
  · have followed : InStep { session with follow := true } { other with follow := true } :=
      ⟨inStep.alike.around ⟨rfl, rfl, rfl, rfl⟩ ⟨rfl, rfl, rfl, rfl⟩ inStep.alike.lines_eq,
        congrArg (fun link : Link => { link with follow := true }) inStep.link_eq,
        inStep.bytesPerLine_eq⟩
    exact followed.alike_reload

theorem alike_connected (inStep : InStep session other) :
    Alike 0 0 session.connected other.connected := by
  have alike := inStep.alike
  unfold Session.connected
  rw [← inStep.connection_eq]
  split
  · have emptied : Alike 0 0 session.resetView other.resetView :=
      .of_resetView alike.ordered alike.otherOrdered alike.sameRule alike.sameNext
        alike.capacity_eq
    exact emptied.around ⟨rfl, rfl, rfl, rfl⟩ ⟨rfl, rfl, rfl, rfl⟩ rfl
  · exact alike.around ⟨rfl, rfl, rfl, rfl⟩ ⟨rfl, rfl, rfl, rfl⟩ alike.lines_eq

/-- The notice of a lost connection holds the delay, which the link decides. -/
theorem alike_disconnected (inStep : InStep session other) (reason : String) :
    Alike 0 0 (session.disconnected reason) (other.disconnected reason) := by
  unfold Session.disconnected
  rw [← inStep.connection_eq]
  have closed : Alike 0 0 { session with connection := session.connection.closed }
      { other with connection := session.connection.closed } :=
    inStep.alike.around ⟨rfl, rfl, rfl, rfl⟩ ⟨rfl, rfl, rfl, rfl⟩ inStep.alike.lines_eq
  exact closed.note _

theorem alike_handle
    (inStep : InStep session other)
    {control : Control}
    (essential : control.presents = false)
    (now : Nat) :
    Alike 0 0 (session.handle control now) (other.handle control now) := by
  cases control with
  | openFile file amount => exact inStep.alike_openFile file amount
  | toggleFollow => exact inStep.alike_toggleFollow
  | stop => exact inStep.alike_stop
  | reload => exact inStep.alike_reload
  | quit => exact inStep.alike
  | filter | toggleErrorFocus => cases essential

/-- What does not only concern the look keeps sessions in step if both do it. -/
theorem perform
    (inStep : InStep session other)
    (essential : operation.presents = false) :
    InStep (session.perform operation) (other.perform operation) where
  alike := by
    cases operation with
    | openFile file amount => exact inStep.alike_openFile file amount
    | reload => exact inStep.alike_reload
    | stop => exact inStep.alike_stop
    | toggleFollow => exact inStep.alike_toggleFollow
    | handle control now => exact inStep.alike_handle essential now
    | connected => exact inStep.alike_connected
    | dial =>
        exact inStep.alike.around ⟨rfl, rfl, rfl, rfl⟩ ⟨rfl, rfl, rfl, rfl⟩ inStep.alike.lines_eq
    | disconnected reason => exact inStep.alike_disconnected reason
    | receive payload => exact inStep.alike.receive payload
    | endStream => exact inStep.alike.endStream
    | note text => exact inStep.alike.note text
    | _ => cases essential
  link_eq := by rw [link_perform, link_perform, inStep.link_eq]
  bytesPerLine_eq := by
    rw [bytesPerLine_perform, bytesPerLine_perform]
    exact inStep.bytesPerLine_eq

/-- What only concerns the look keeps sessions in step if one of them does it. -/
theorem perform_of_presents
    (inStep : InStep session other)
    (presents : operation.presents = true) :
    InStep (session.perform operation) other where
  alike := by
    have alike := inStep.alike
    have around : ∀ {last : Session}, SameViews session last → last.lines = session.lines →
        Alike 0 0 last other := fun same sameLines =>
      alike.around same ⟨rfl, rfl, rfl, rfl⟩ (sameLines.trans alike.lines_eq)
    cases operation with
    | toggleErrorFocus => exact alike.toggleErrorFocus
    | setFilter text => exact alike.setFilter text
    | pollFilter now =>
        rw [Session.perform, Session.pollFilter]
        split
        · exact alike.setFilter _
        · exact alike
    | handle control now =>
        cases control with
        | toggleErrorFocus => exact alike.toggleErrorFocus
        | filter text => exact around ⟨rfl, rfl, rfl, rfl⟩ rfl
        | _ => cases presents
    | typeFilter | heartbeat | takeOutbound | takeUpdates =>
        exact around ⟨rfl, rfl, rfl, rfl⟩ rfl
    | _ => cases presents
  link_eq := by
    rw [link_perform, (session.link.perform_of_presents presents).1]
    exact inStep.link_eq
  bytesPerLine_eq := by
    rw [bytesPerLine_perform]
    exact inStep.bytesPerLine_eq

/-- A session stays in step with one that leaves out what only concerns the look. -/
theorem run_essential (inStep : InStep session other) (operations : List Operation) :
    InStep (session.run operations) (other.run (Operation.essential operations)) := by
  unfold Operation.essential
  induction operations generalizing session other with
  | nil => exact inStep
  | cons operation rest inductionHypothesis =>
      cases presents : operation.presents with
      | true =>
          rw [List.filter_cons_of_neg (by simp [presents])]
          exact inductionHypothesis (inStep.perform_of_presents presents)
      | false =>
          rw [List.filter_cons_of_pos (by simp [presents])]
          exact inductionHypothesis (inStep.perform presents)

end InStep

/-- Two sessions differ at most in which entries are seen, which view is on show, and what was taken
from the queues. -/
structure SameButLook (session other : Session) : Prop where
  /-- The main views hold the same entries. -/
  main_eq : session.mainView.map Entry.revealed = other.mainView.map Entry.revealed
  /-- The views of errors hold the same entries. -/
  focus_eq : session.focusView.map Entry.revealed = other.focusView.map Entry.revealed
  /-- The main views keep the same number of entries. -/
  capacity_eq : session.scrollback.capacity = other.scrollback.capacity
  /-- The same file is on show. -/
  selection_eq : session.selection = other.selection
  /-- Appended text is wanted by both or by none. -/
  follow_eq : session.follow = other.follow
  /-- The connections are in the same state, with the same current command. -/
  connection_eq : session.connection = other.connection

theorem SameButLook.symm (same : SameButLook session other) : SameButLook other session :=
  ⟨same.main_eq.symm, same.focus_eq.symm, same.capacity_eq.symm, same.selection_eq.symm,
    same.follow_eq.symm, same.connection_eq.symm⟩

theorem SameButLook.trans
    {third : Session}
    (first : SameButLook session other)
    (second : SameButLook other third) :
    SameButLook session third :=
  ⟨first.main_eq.trans second.main_eq, first.focus_eq.trans second.focus_eq,
    first.capacity_eq.trans second.capacity_eq, first.selection_eq.trans second.selection_eq,
    first.follow_eq.trans second.follow_eq, first.connection_eq.trans second.connection_eq⟩

theorem InStep.sameButLook (inStep : InStep session other) : SameButLook session other where
  main_eq := by simpa using inStep.alike.main_eq
  focus_eq := by simpa using inStep.alike.focus_eq
  capacity_eq := inStep.alike.capacity_eq
  selection_eq := inStep.selection_eq
  follow_eq := inStep.follow_eq
  connection_eq := inStep.connection_eq

/-- Leaving out what only concerns the look leaves a session with the same entries and the same
link to the server. -/
theorem sameButLook_essential (options : SessionOptions) (operations : List Operation) :
    SameButLook ((ofOptions options).run operations)
      ((ofOptions options).run (Operation.essential operations)) := by
  have start : InStep (ofOptions options) (ofOptions options) :=
    ⟨.refl (ordered_ofOptions options), rfl, rfl⟩
  exact (start.run_essential operations).sameButLook

/-- Two histories that differ only in what only concerns the look, left out of the one or the other
or done at another time, end with the same entries and the same link to the server, and have asked
the server for the same. -/
theorem sameButLook_run
    (options : SessionOptions)
    {operations others : List Operation}
    (same : Operation.essential operations = Operation.essential others) :
    SameButLook ((ofOptions options).run operations) ((ofOptions options).run others) ∧
      Link.withoutPings ((ofOptions options).messages operations) =
        Link.withoutPings ((ofOptions options).messages others) := by
  constructor
  · have left := sameButLook_essential options operations
    have right := sameButLook_essential options others
    rw [same] at left
    exact left.trans right.symm
  · rw [messages_eq, messages_eq, ← Link.withoutPings_messages_essential, same,
      Link.withoutPings_messages_essential]

/-- An error is searched for while the connection is lost, with the filter and the view changed
between the lines of a section. -/
theorem sameButLook_run_of_search :
    let error : Operation := .receive (.binary "*ERROR* boom\n".toUTF8.toList)
    let frame : Operation := .receive (.binary "\tat frame\n".toUTF8.toList)
    let searched : List Operation :=
      [.setFilter "frame", .openFile "app.log" .standard, .connected, .heartbeat, error,
        .toggleErrorFocus, .takeUpdates, .handle (.filter "lost") 0, frame, .disconnected "lost",
        .pollFilter 1000, .takeOutbound, .dial, .connected, .handle .toggleErrorFocus 2000, .stop]
    let watched : List Operation :=
      [.openFile "app.log" .standard, .connected, error, frame, .disconnected "lost", .dial,
        .connected, .stop, .heartbeat]
    Operation.essential searched = Operation.essential watched ∧
      SameButLook ((ofOptions {}).run searched) ((ofOptions {}).run watched) ∧
      Link.withoutPings ((ofOptions {}).messages searched) =
        Link.withoutPings ((ofOptions {}).messages watched) := by
  intro error frame searched watched
  have same : Operation.essential searched = Operation.essential watched := rfl
  exact ⟨same, sameButLook_run {} same⟩

end Session
end TailView
