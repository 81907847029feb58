import TailView.Proofs.Session.Views

/-!
# The link to the server

What is sent to the server depends on three things only: the connection, the wish to follow, and the
file on show.  Together they are a small machine of its own, which takes the operations of a session
and answers each with the messages to send.  What a session queues is what this machine answers,
whatever the session shows.
-/

namespace TailView

/-- What decides which messages are sent to the server. -/
structure Link where
  /-- The connection to the server. -/
  connection : Connection
  /-- Whether appended text is wanted. -/
  follow : Bool
  /-- The file on show. -/
  selection : Option Selection
deriving DecidableEq

namespace Link

/-- Asks for a file. -/
def openFile (link : Link) (file : String) (amount : Amount) : Link × List String :=
  let (connection, message) := link.connection.issue ⟨.ofFollow link.follow, amount, file⟩
  ({ link with connection, selection := some ⟨file, amount⟩ }, message.toList)

/-- Asks for the file on show again. -/
def reload (link : Link) : Link × List String :=
  match link.selection with
  | some selection => link.openFile selection.file selection.amount
  | none => (link, [])

/-- Ends the stream. -/
def stop (link : Link) : Link × List String :=
  let (connection, message) := link.connection.stop
  ({ link with connection, follow := false }, message.toList)

/-- Switches between following the file and not. -/
def toggleFollow (link : Link) : Link × List String :=
  if link.follow then link.stop else { link with follow := true }.reload

/-- The link after an operation, and the messages that the operation sends. -/
def perform (link : Link) : Operation → Link × List String
  | .openFile file amount | .handle (.openFile file amount) _ => link.openFile file amount
  | .reload | .handle .reload _ => link.reload
  | .stop | .handle .stop _ => link.stop
  | .toggleFollow | .handle .toggleFollow _ => link.toggleFollow
  | .connected => ({ link with connection := link.connection.opened }, link.connection.greeting)
  | .dial => ({ link with connection := link.connection.dial }, [])
  | .disconnected _ => ({ link with connection := link.connection.closed }, [])
  | .heartbeat => (link, link.connection.heartbeat.toList)
  | _ => (link, [])

/-- The link after a history. -/
def run (link : Link) (operations : List Operation) : Link :=
  operations.foldl (fun link operation => (link.perform operation).1) link

/-- The messages that a history sends, in order. -/
def messages (link : Link) : List Operation → List String
  | [] => []
  | operation :: rest => (link.perform operation).2 ++ (link.perform operation).1.messages rest

@[simp] theorem run_nil (link : Link) : link.run [] = link := rfl

@[simp] theorem run_cons (link : Link) (operation : Operation) (rest : List Operation) :
    link.run (operation :: rest) = (link.perform operation).1.run rest := rfl

@[simp] theorem messages_singleton (link : Link) (operation : Operation) :
    link.messages [operation] = (link.perform operation).2 :=
  List.append_nil _

theorem run_append (link : Link) (first second : List Operation) :
    link.run (first ++ second) = (link.run first).run second :=
  List.foldl_append

theorem messages_append (link : Link) (first second : List Operation) :
    link.messages (first ++ second) = link.messages first ++ (link.run first).messages second := by
  induction first generalizing link with
  | nil => rfl
  | cons operation rest inductionHypothesis =>
      rw [List.cons_append, messages, messages, inductionHypothesis, run_cons, List.append_assoc]

end Link

namespace Session

/-- What of a session decides which messages are sent. -/
def link (session : Session) : Link where
  connection := session.connection
  follow := session.follow
  selection := session.selection

/-- The messages that an operation adds to the queue. -/
def added (session : Session) (operation : Operation) : List String :=
  (session.perform operation).outbound.toList.drop session.outbound.size

/-- The messages that a history adds to the queue, in order. -/
def messages (session : Session) : List Operation → List String
  | [] => []
  | operation :: rest => session.added operation ++ (session.perform operation).messages rest

/-- What an operation does to a link and to the queue of messages. -/
structure Sends
    (session last : Session)
    (next : Link × List String) : Prop where
  /-- The link after the operation. -/
  link_eq : last.link = next.1
  /-- Its messages are queued behind the others. -/
  outbound_eq : last.outbound.toList = session.outbound.toList ++ next.2

variable {session last : Session}

theorem Sends.silent
    (link_eq : last.link = session.link)
    (outbound_eq : last.outbound = session.outbound) :
    Sends session last (session.link, []) :=
  ⟨link_eq, by rw [outbound_eq, List.append_nil]⟩

/-- What only the views are concerned with sends nothing. -/
theorem Sends.of_surroundings_eq
    {other : Session}
    {next : Link × List String}
    (sends : Sends session other next)
    (same : last.surroundings = other.surroundings) :
    Sends session last next where
  link_eq := by
    rw [← sends.link_eq]
    exact congrArg
      (fun around : Surroundings =>
        (⟨around.connection, around.follow, around.selection⟩ : Link)) same
  outbound_eq := by
    rw [← sends.outbound_eq]
    exact congrArg (fun around : Surroundings => around.outbound.toList) same

theorem sends_openFile (session : Session) (file : String) (amount : Amount) :
    Sends session (session.openFile file amount) (session.link.openFile file amount) :=
  ⟨rfl, Array.toList_appendList⟩

theorem sends_reload (session : Session) :
    Sends session session.reload session.link.reload := by
  have sameSelection : session.link.selection = session.selection := rfl
  unfold reload Link.reload
  rw [sameSelection]
  cases session.selection with
  | some selection => exact sends_openFile session selection.file selection.amount
  | none => exact .silent rfl rfl

theorem sends_stop (session : Session) : Sends session session.stop session.link.stop :=
  ⟨rfl, Array.toList_appendList⟩

theorem sends_toggleFollow (session : Session) :
    Sends session session.toggleFollow session.link.toggleFollow := by
  have sameFollow : session.link.follow = session.follow := rfl
  unfold toggleFollow Link.toggleFollow
  rw [sameFollow]
  split
  · exact sends_stop session
  · have reloaded := sends_reload { session with follow := true }
    exact ⟨reloaded.link_eq, reloaded.outbound_eq⟩

theorem sends_connected (session : Session) :
    Sends session session.connected (session.link.perform .connected) := by
  unfold connected
  split
  · exact ⟨rfl, Array.toList_appendList⟩
  · exact ⟨rfl, Array.toList_appendList⟩

/-- Lines that come in send nothing. -/
theorem sends_receive (session : Session) (payload : Payload) :
    Sends session (session.receive payload) (session.link, []) := by
  cases payload with
  | binary bytes =>
      have buffered : Sends session { session with lines := (session.lines.feed bytes).1 }
          (session.link, []) :=
        .silent rfl rfl
      exact buffered.of_surroundings_eq (surroundings_foldl_addLine _ _)
  | text notice =>
      have unchanged : Sends session session (session.link, []) := .silent rfl rfl
      rw [receive]
      split
      · exact unchanged
      · exact unchanged.of_surroundings_eq (surroundings_note session notice)
  | unsupported description => exact .silent rfl rfl

theorem sends_endStream (session : Session) :
    Sends session session.endStream (session.link, []) := by
  unfold endStream
  split
  · have emptied : Sends session { session with lines := .empty } (session.link, []) :=
      .silent rfl rfl
    exact emptied.of_surroundings_eq (surroundings_addLine _ _)
  · exact .silent rfl rfl

theorem sends_pollFilter (session : Session) (now : Nat) :
    Sends session (session.pollFilter now) (session.link, []) := by
  unfold pollFilter
  split
  · exact .silent rfl rfl
  · exact .silent rfl rfl

theorem sends_handle (session : Session) (control : Control) (now : Nat) :
    Sends session (session.handle control now) (session.link.perform (.handle control now)) := by
  cases control with
  | openFile file amount => exact sends_openFile session file amount
  | toggleFollow => exact sends_toggleFollow session
  | stop => exact sends_stop session
  | reload => exact sends_reload session
  | filter | toggleErrorFocus | quit => exact .silent rfl rfl

/-- Every operation but the one that takes the messages does to the link and to the queue what the
link alone says. -/
theorem sends_perform
    (session : Session)
    {operation : Operation}
    (leaves : operation ≠ .takeOutbound) :
    Sends session (session.perform operation) (session.link.perform operation) := by
  cases operation with
  | openFile file amount => exact sends_openFile session file amount
  | reload => exact sends_reload session
  | stop => exact sends_stop session
  | toggleFollow => exact sends_toggleFollow session
  | handle control now => exact sends_handle session control now
  | connected => exact sends_connected session
  | receive payload => exact sends_receive session payload
  | endStream => exact sends_endStream session
  | pollFilter now => exact sends_pollFilter session now
  | heartbeat => exact ⟨rfl, Array.toList_appendList⟩
  | disconnected reason =>
      have closed : Sends session { session with connection := session.connection.closed }
          (session.link.perform (.disconnected reason)) :=
        ⟨rfl, (List.append_nil _).symm⟩
      exact closed.of_surroundings_eq (surroundings_note _ _)
  | note text =>
      have unchanged : Sends session session (session.link, []) := .silent rfl rfl
      exact unchanged.of_surroundings_eq (surroundings_note session text)
  | dial => exact ⟨rfl, (List.append_nil _).symm⟩
  | toggleErrorFocus | setFilter | typeFilter | takeUpdates => exact .silent rfl rfl
  | takeOutbound => exact absurd rfl leaves

/-- The link after an operation follows from the link before it. -/
theorem link_perform (session : Session) (operation : Operation) :
    (session.perform operation).link = (session.link.perform operation).1 := by
  by_cases takes : operation = .takeOutbound
  · rw [takes]
    rfl
  · exact (sends_perform session takes).link_eq

/-- What an operation adds to the queue follows from the link. -/
theorem added_eq (session : Session) (operation : Operation) :
    session.added operation = (session.link.perform operation).2 := by
  unfold added
  by_cases takes : operation = .takeOutbound
  · rw [takes]
    exact List.drop_nil
  · rw [(sends_perform session takes).outbound_eq]
    exact List.drop_left' session.outbound.length_toList

/-- The messages in the queue stay there, in order, until they are taken. -/
theorem outbound_perform
    (session : Session)
    {operation : Operation}
    (leaves : operation ≠ .takeOutbound) :
    (session.perform operation).outbound.toList =
      session.outbound.toList ++ session.added operation := by
  rw [added_eq, (sends_perform session leaves).outbound_eq]

theorem link_run (session : Session) (operations : List Operation) :
    (session.run operations).link = session.link.run operations := by
  induction operations generalizing session with
  | nil => rfl
  | cons operation rest inductionHypothesis =>
      rw [Link.run_cons, ← link_perform]
      exact inductionHypothesis (session.perform operation)

theorem messages_eq (session : Session) (operations : List Operation) :
    session.messages operations = session.link.messages operations := by
  induction operations generalizing session with
  | nil => rfl
  | cons operation rest inductionHypothesis =>
      rw [messages, Link.messages, added_eq, inductionHypothesis, link_perform]

end Session
end TailView
