import TailView.Proofs.Session.Views
import TailView.Session.Operation

/-!
# What waits in the queues

Messages for the server and changes of the view wait in two queues until they are taken.  What waits
there decides nothing: every operation does the same behind full queues as behind empty ones, and
adds what it has to add at the end.
-/

namespace TailView

/-- Whether an operation takes what is queued. -/
def Operation.takes : Operation → Bool
  | .takeOutbound | .takeUpdates => true
  | _ => false

namespace Session

/-- A session with messages and changes queued before its own. -/
def behind (session : Session) (messages : Array String) (changes : Array Update) : Session :=
  { session with outbound := messages ++ session.outbound, updates := changes ++ session.updates }

variable {messages : Array String} {changes : Array Update}

/-- A session is what it is without its queues, behind them. -/
theorem behind_taken (session : Session) :
    session.takeOutbound.takeUpdates.behind session.outbound session.updates = session := by
  simp [behind, takeOutbound, takeUpdates]

theorem announce_behind (session : Session) (update : Update) :
    (session.behind messages changes).announce update =
      (session.announce update).behind messages changes := by
  rw [announce, announce, behind, behind, Array.append_push]

theorem send_behind (session : Session) (texts : List String) :
    (session.behind messages changes).send texts = (session.send texts).behind messages changes := by
  have assoc : messages ++ session.outbound ++ texts = messages ++ (session.outbound ++ texts) := by
    apply Array.toList_inj.mp
    simp
  rw [send, send, behind, behind, assoc]

/-! ## Lines and notices -/

theorem growSection_behind (session : Session) (id : EntryId) (line : String) :
    (session.behind messages changes).growSection id line =
      (session.growSection id line).behind messages changes := by
  rw [growSection_eq, growSection_eq, behind, behind, ← Array.append_assoc]
  rfl

theorem enter_behind (session : Session) (entry : Entry) (next : Classifier) :
    (session.behind messages changes).enter entry next =
      (session.enter entry next).behind messages changes := by
  rw [enter_eq, enter_eq, behind, behind, ← Array.append_assoc]

theorem addLine_behind (session : Session) (line : String) :
    (session.behind messages changes).addLine line =
      (session.addLine line).behind messages changes := by
  cases found : session.classifier.continued? line with
  | some id =>
      rw [addLine_of_continued found, ← growSection_behind]
      exact addLine_of_continued found
  | none =>
      rw [addLine_of_fresh found, ← enter_behind]
      exact addLine_of_fresh found

theorem foldl_addLine_behind (session : Session) (lines : List String) :
    lines.foldl addLine (session.behind messages changes) =
      (lines.foldl addLine session).behind messages changes := by
  induction lines generalizing session with
  | nil => rfl
  | cons line rest inductionHypothesis =>
      rw [List.foldl_cons, addLine_behind, inductionHypothesis, List.foldl_cons]

theorem note_behind (session : Session) (text : String) :
    (session.behind messages changes).note text = (session.note text).behind messages changes :=
  enter_behind session _ _

theorem receive_behind (session : Session) (payload : Payload) :
    (session.behind messages changes).receive payload =
      (session.receive payload).behind messages changes := by
  cases payload with
  | binary bytes =>
      exact foldl_addLine_behind { session with lines := (session.lines.feed bytes).1 } _
  | text notice =>
      rw [receive, receive]
      split
      · rfl
      · exact note_behind session notice
  | unsupported description => rfl

theorem endStream_behind (session : Session) :
    (session.behind messages changes).endStream = session.endStream.behind messages changes := by
  have sameLines : (session.behind messages changes).lines = session.lines := rfl
  rw [endStream, endStream, sameLines]
  split
  · exact addLine_behind { session with lines := .empty } _
  · rfl

/-! ## What the user asks for -/

theorem resetView_behind (session : Session) :
    (session.behind messages changes).resetView = session.resetView.behind messages changes :=
  announce_behind
    { session.resetStream with
      scrollback := session.scrollback.clear
      focus := session.focus.clear } .redraw

theorem openFile_behind (session : Session) (file : String) (amount : Amount) :
    (session.behind messages changes).openFile file amount =
      (session.openFile file amount).behind messages changes := by
  let selected := { session with selection := some ⟨file, amount⟩ }
  have emptied :
      { session.behind messages changes with selection := some ⟨file, amount⟩ }.resetView =
        selected.resetView.behind messages changes :=
    resetView_behind selected
  unfold openFile
  simp only [emptied]
  exact send_behind { selected.resetView with
    scrollback := selected.resetView.scrollback.setCapacity
      (amount.capacity selected.resetView.bytesPerLine)
    connection :=
      (selected.resetView.connection.issue
        ⟨.ofFollow selected.resetView.follow, amount, file⟩).1 } _

theorem reload_behind (session : Session) :
    (session.behind messages changes).reload = session.reload.behind messages changes := by
  have sameSelection : (session.behind messages changes).selection = session.selection := rfl
  rw [reload, reload, sameSelection]
  split
  · exact openFile_behind session _ _
  · rfl

theorem stop_behind (session : Session) :
    (session.behind messages changes).stop = session.stop.behind messages changes :=
  send_behind
    { session.resetStream with follow := false, connection := session.connection.stop.1 } _

theorem toggleFollow_behind (session : Session) :
    (session.behind messages changes).toggleFollow =
      session.toggleFollow.behind messages changes := by
  have sameFollow : (session.behind messages changes).follow = session.follow := rfl
  rw [toggleFollow, toggleFollow, sameFollow]
  split
  · exact stop_behind session
  · exact reload_behind { session with follow := true }

theorem setFilter_behind (session : Session) (text : String) :
    (session.behind messages changes).setFilter text =
      (session.setFilter text).behind messages changes :=
  announce_behind { session with
    typed := session.typed.cancel
    filter := session.filter.setText text
    scrollback := session.scrollback.updateAll (session.filter.setText text).apply
    focus := session.focus.updateAll (session.filter.setText text).apply } .redraw

theorem pollFilter_behind (session : Session) (now : Nat) :
    (session.behind messages changes).pollFilter now =
      (session.pollFilter now).behind messages changes := by
  have sameTyped : (session.behind messages changes).typed = session.typed := rfl
  rw [pollFilter, pollFilter, sameTyped]
  split
  · exact setFilter_behind session _
  · rfl

theorem handle_behind (session : Session) (control : Control) (now : Nat) :
    (session.behind messages changes).handle control now =
      (session.handle control now).behind messages changes := by
  cases control with
  | openFile file amount => exact openFile_behind session file amount
  | filter text => rfl
  | toggleErrorFocus => exact announce_behind { session with focus := session.focus.toggle } .redraw
  | toggleFollow => exact toggleFollow_behind session
  | stop => exact stop_behind session
  | reload => exact reload_behind session
  | quit => rfl

/-! ## Operations -/

theorem connected_behind (session : Session) :
    (session.behind messages changes).connected = session.connected.behind messages changes := by
  have sameConnection : (session.behind messages changes).connection = session.connection := rfl
  unfold connected
  simp only [sameConnection]
  split
  · rw [resetView_behind]
    exact send_behind { session.resetView with connection := session.resetView.connection.opened } _
  · exact send_behind { session with connection := session.connection.opened } _

/-- Behind full queues an operation does what it does behind empty ones. -/
theorem perform_behind
    (session : Session)
    {operation : Operation}
    (leaves : operation.takes = false) :
    (session.behind messages changes).perform operation =
      (session.perform operation).behind messages changes := by
  cases operation with
  | openFile file amount => exact openFile_behind session file amount
  | reload => exact reload_behind session
  | stop => exact stop_behind session
  | toggleFollow => exact toggleFollow_behind session
  | toggleErrorFocus => exact handle_behind session .toggleErrorFocus 0
  | setFilter text => exact setFilter_behind session text
  | typeFilter text now => rfl
  | pollFilter now => exact pollFilter_behind session now
  | handle control now => exact handle_behind session control now
  | connected => exact connected_behind session
  | dial => rfl
  | disconnected reason =>
      exact note_behind { session with connection := session.connection.closed } _
  | heartbeat => exact send_behind session _
  | receive payload => exact receive_behind session payload
  | endStream => exact endStream_behind session
  | note text => exact note_behind session text
  | takeOutbound | takeUpdates => cases leaves

theorem run_behind
    (session : Session)
    {operations : List Operation}
    (leave : ∀ operation ∈ operations, operation.takes = false) :
    (session.behind messages changes).run operations =
      (session.run operations).behind messages changes := by
  induction operations generalizing session with
  | nil => rfl
  | cons operation rest inductionHypothesis =>
      rw [List.forall_mem_cons] at leave
      rw [run, List.foldl_cons, perform_behind session leave.1]
      exact inductionHypothesis (session.perform operation) leave.2

/-- As long as none is taken, the changes of a history come behind those that waited before. -/
theorem updates_run
    (session : Session)
    {operations : List Operation}
    (leave : ∀ operation ∈ operations, operation.takes = false) :
    (session.run operations).updates.toList =
      session.updates.toList ++ (session.takeUpdates.run operations).updates.toList := by
  have apart : session.takeUpdates.behind #[] session.updates = session := by
    simp [behind, takeUpdates]
  have later : session.run operations =
      (session.takeUpdates.run operations).behind #[] session.updates := by
    rw [← run_behind _ leave, apart]
  rw [later, behind, Array.toList_append]

end Session
end TailView
