import TailView.Proofs.Session.Link

/-!
# The server knows the current command

Commands are given, replaced and ended while the connection is open and while it is not, and the
connection opens any number of times.  Whenever it is open, the server that has listened since it
opened takes the same command to be the current one as the session does, and that command asks for
the file on show in the mode that is wished for.  When the stream was ended, nothing is asked for
until the user asks again.
-/

namespace TailView

namespace Command

/-- Whether a message asks for a file. -/
def isRequest (message : String) : Bool :=
  [Mode.tail, Mode.follow].any fun mode => (mode.name ++ ":").toList.isPrefixOf message.toList

/-- What a server takes to be the current command when it has heard a message. -/
def hear (current : Option String) (message : String) : Option String :=
  if isRequest message then some message
  else if message = stopMessage then none
  else current

theorem isRequest_wire (command : Command) : isRequest command.wire = true := by
  have begins : command.wire.toList =
      (command.mode.name ++ ":").toList ++ (command.amount.text ++ ":" ++ command.file).toList := by
    simp [wire]
  rw [isRequest, List.any_eq_true]
  refine ⟨command.mode, ?_, ?_⟩
  · cases command.mode <;> decide
  · rw [List.isPrefixOf_iff_prefix, begins]
    exact List.prefix_append _ _

@[simp] theorem hear_wire (current : Option String) (command : Command) :
    hear current command.wire = some command.wire :=
  if_pos command.isRequest_wire

@[simp] theorem hear_stop (current : Option String) : hear current stopMessage = none := rfl

@[simp] theorem hear_ping (current : Option String) : hear current pingMessage = current := rfl

end Command

/-- Whether the user asks for a file by a wish: for a new one, or for the one on show again. -/
def Control.asks : Control → Bool
  | .openFile .. | .reload | .toggleFollow => true
  | .filter _ | .toggleErrorFocus | .stop | .quit => false

/-- Whether the user asks for a file: for a new one, or for the one on show again. -/
def Operation.asks : Operation → Bool
  | .openFile .. | .reload | .toggleFollow => true
  | .handle control _ => control.asks
  | _ => false

namespace Link

variable {link : Link} {operation : Operation} {next : Link × List String}
  {current : Option String}

/-- What an operation can do to a link. -/
inductive Effect (link : Link) (operation : Operation) : Link × List String → Prop
  /-- A file is asked for. -/
  | asks (follow : Bool) (file : String) (amount : Amount) :
      operation.asks = true → Effect link operation ({ link with follow }.openFile file amount)
  /-- Following is wished for while no file is on show. -/
  | wishes (follow : Bool) :
      operation.asks = true → link.selection = none →
      Effect link operation ({ link with follow }, [])
  /-- The stream is ended. -/
  | ends : Effect link operation link.stop
  /-- The connection opens. -/
  | opens :
      operation = .connected →
      Effect link operation
        ({ link with connection := link.connection.opened }, link.connection.greeting)
  /-- The connection is not open from now on. -/
  | closes (connection : Connection) :
      connection.state ≠ .opened → connection.current = link.connection.current →
      Effect link operation ({ link with connection }, [])
  /-- The connection is kept alive. -/
  | beats : Effect link operation (link, link.connection.heartbeat.toList)
  /-- Nothing happens. -/
  | rests : Effect link operation (link, [])

theorem effect_reload (asks : operation.asks = true) (follow : Bool) :
    Effect link operation { link with follow }.reload := by
  unfold reload
  split
  · exact .asks follow _ _ asks
  · next selected => exact .wishes follow asks selected

theorem effect_toggleFollow (asks : operation.asks = true) :
    Effect link operation link.toggleFollow := by
  unfold toggleFollow
  split
  · exact .ends
  · exact effect_reload asks true

theorem effect_perform (link : Link) (operation : Operation) :
    Effect link operation (link.perform operation) := by
  cases operation with
  | openFile file amount => exact .asks link.follow file amount rfl
  | reload => exact effect_reload rfl link.follow
  | stop => exact .ends
  | toggleFollow => exact effect_toggleFollow rfl
  | handle control now =>
      cases control with
      | openFile file amount => exact .asks link.follow file amount rfl
      | reload => exact effect_reload rfl link.follow
      | stop => exact .ends
      | toggleFollow => exact effect_toggleFollow rfl
      | filter | toggleErrorFocus | quit => exact .rests
  | connected => exact .opens rfl
  | dial => exact .closes link.connection.dial nofun rfl
  | disconnected reason => exact .closes link.connection.closed nofun rfl
  | heartbeat => exact .beats
  | toggleErrorFocus | setFilter | typeFilter | pollFilter | receive | endStream | note |
    takeOutbound | takeUpdates => exact .rests

/-! ## Messages are sent over an open connection -/

/-- A message is sent if the connection is open. -/
theorem toList_sending (connection : Connection) (message : String) :
    (connection.sending message).toList =
      if connection.state = .opened then [message] else [] := by
  unfold Connection.sending Connection.isOpen
  by_cases isOpen : connection.state = .opened <;> simp [isOpen]

namespace Effect

/-- Messages are sent while the connection is open, and when it opens. -/
theorem opened_of_messages_ne_nil
    (effect : Effect link operation next)
    (sent : next.2 ≠ []) :
    link.connection.state = .opened ∨ operation = .connected := by
  by_contra closed
  obtain ⟨notOpen, notOpening⟩ := not_or.mp closed
  cases effect with
  | asks follow file amount asks =>
      apply sent
      exact (toList_sending _ _).trans (if_neg notOpen)
  | ends =>
      apply sent
      exact (toList_sending _ _).trans (if_neg notOpen)
  | beats =>
      apply sent
      exact (toList_sending _ _).trans (if_neg notOpen)
  | opens isConnected => exact notOpening isConnected
  | wishes | closes | rests => exact sent rfl

/-- A connection is open if it was, or if it has just opened. -/
theorem opened_before
    (effect : Effect link operation next)
    (isOpen : next.1.connection.state = .opened) :
    link.connection.state = .opened ∨ operation = .connected := by
  cases effect with
  | asks | wishes | ends | beats | rests => exact .inl isOpen
  | opens isConnected => exact .inr isConnected
  | closes connection notOpen same => exact absurd isOpen notOpen

end Effect

/-! ## What the server has heard -/

/-- While the connection is open the server takes the current command to be the current one. -/
def Heard (link : Link) (current : Option String) : Prop :=
  link.connection.state = .opened → current = link.connection.current.map Command.wire

theorem Heard.openFile (link : Link) (current : Option String) (file : String) (amount : Amount) :
    (link.openFile file amount).1.Heard
      ((link.openFile file amount).2.foldl Command.hear current) := by
  intro isOpen
  have wasOpen : link.connection.state = .opened := isOpen
  have sent : (link.openFile file amount).2 =
      [Command.wire ⟨.ofFollow link.follow, amount, file⟩] :=
    (toList_sending _ _).trans (if_pos wasOpen)
  rw [sent]
  exact Command.hear_wire current _

theorem Heard.stop (link : Link) (current : Option String) :
    link.stop.1.Heard (link.stop.2.foldl Command.hear current) := by
  intro isOpen
  have wasOpen : link.connection.state = .opened := isOpen
  have sent : link.stop.2 = [Command.stopMessage] :=
    (toList_sending _ _).trans (if_pos wasOpen)
  rw [sent]
  rfl

theorem Heard.beat (heard : link.Heard current) :
    link.Heard (link.connection.heartbeat.toList.foldl Command.hear current) := by
  intro isOpen
  have sent : link.connection.heartbeat.toList = [Command.pingMessage] :=
    (toList_sending _ _).trans (if_pos isOpen)
  rw [sent]
  exact heard isOpen

/-- A server that listens from the moment when the connection opens hears the current command. -/
theorem heard_greeting (link : Link) :
    Heard { link with connection := link.connection.opened }
      (link.connection.greeting.foldl Command.hear none) := by
  intro _
  change link.connection.greeting.foldl Command.hear none = link.connection.current.map Command.wire
  unfold Connection.greeting
  cases link.connection.current with
  | some command => exact Command.hear_wire none command
  | none => rfl

/-- The server goes on to take the current command to be the current one. -/
theorem Heard.step
    (heard : link.Heard current)
    (effect : Effect link operation next)
    (staysOpen : operation ≠ .connected) :
    next.1.Heard (next.2.foldl Command.hear current) := by
  cases effect with
  | asks follow file amount => exact Heard.openFile _ current file amount
  | ends => exact Heard.stop link current
  | beats => exact heard.beat
  | opens isConnected => exact absurd isConnected staysOpen
  | closes connection notOpen same => exact fun isOpen => absurd isOpen notOpen
  | wishes | rests => exact heard

/-- Whenever the connection is open there is a last moment when it opened, and a server that has
listened since then takes the current command to be the current one. -/
theorem heard_run
    (closedAtStart : link.connection.state ≠ .opened)
    (operations : List Operation)
    (isOpen : (link.run operations).connection.state = .opened) :
    ∃ before since, operations = before ++ .connected :: since ∧ .connected ∉ since ∧
      ((link.run before).messages (.connected :: since)).foldl Command.hear none =
        (link.run operations).connection.current.map Command.wire := by
  -- the induction is on the end of the history, where the last moment is to be looked for
  induction operations using List.reverseRecOn with
  | nil => exact absurd isOpen closedAtStart
  | append_singleton earlier operation inductionHypothesis =>
      have effect := effect_perform (link.run earlier) operation
      have performed : link.run (earlier ++ [operation]) =
          ((link.run earlier).perform operation).1 :=
        run_append link earlier [operation]
      rw [performed] at isOpen ⊢
      by_cases opening : operation = .connected
      · subst opening
        refine ⟨earlier, [], rfl, List.not_mem_nil, ?_⟩
        rw [messages_singleton]
        exact heard_greeting (link.run earlier) rfl
      · have wasOpen := (effect.opened_before isOpen).resolve_right opening
        obtain ⟨before, since, rfl, notSince, agree⟩ := inductionHypothesis wasOpen
        refine ⟨before, since ++ [operation], ?_, ?_, ?_⟩
        · rw [List.append_assoc, List.cons_append]
        · rw [List.mem_append, List.mem_singleton, not_or]
          exact ⟨notSince, Ne.symm opening⟩
        · have heard : (link.run (before ++ .connected :: since)).Heard _ := fun _ => agree
          have goesOn := heard.step effect opening isOpen
          rw [← List.cons_append, messages_append, List.foldl_append, ← run_append,
            messages_singleton]
          exact goesOn

/-! ## The current command asks for the file on show -/

/-- The current command asks for the file on show, in the mode that is wished for. -/
def Settled (link : Link) : Prop :=
  ∀ command, link.connection.current = some command →
    link.selection = some ⟨command.file, command.amount⟩ ∧ command.mode = .ofFollow link.follow

theorem Settled.step (settled : link.Settled) (effect : Effect link operation next) :
    next.1.Settled := by
  cases effect with
  | asks follow file amount =>
      intro command isCurrent
      cases isCurrent
      exact ⟨rfl, rfl⟩
  | wishes follow asks notSelected =>
      -- without a file on show there is no current command whose mode could be wrong
      intro command isCurrent
      have selected := (settled command isCurrent).1
      rw [notSelected] at selected
      cases selected
  | ends => exact fun _ isCurrent => nomatch isCurrent
  | closes connection notOpen same =>
      intro command isCurrent
      exact settled command (same ▸ isCurrent)
  | opens | beats | rests => exact settled

theorem settled_run (settled : link.Settled) (operations : List Operation) :
    (link.run operations).Settled := by
  induction operations generalizing link with
  | nil => exact settled
  | cons operation rest inductionHypothesis =>
      exact inductionHypothesis (settled.step (effect_perform link operation))

/-! ## A stream that was ended is not asked for again -/

/-- Messages that ask for nothing. -/
def Quiet (messages : List String) : Prop :=
  ∀ message ∈ messages, message = Command.pingMessage ∨ message = Command.stopMessage

theorem quiet_sending
    {message : String}
    (asksNothing : message = Command.pingMessage ∨ message = Command.stopMessage)
    (connection : Connection) :
    Quiet (connection.sending message).toList := by
  rw [toList_sending]
  split
  · exact List.forall_mem_singleton.mpr asksNothing
  · exact List.forall_mem_nil _

theorem quiet_stop (link : Link) : Quiet link.stop.2 := quiet_sending (.inr rfl) link.connection

/-- Without a current command nothing is asked for unless the user asks. -/
theorem Effect.quiet
    (effect : Effect link operation next)
    (idle : link.connection.current = none)
    (asksNothing : operation.asks = false) :
    next.1.connection.current = none ∧ Quiet next.2 := by
  cases effect with
  | asks follow file amount asks => exact absurd asks (by simp [asksNothing])
  | wishes follow asks => exact absurd asks (by simp [asksNothing])
  | ends => exact ⟨rfl, quiet_stop link⟩
  | opens isConnected =>
      refine ⟨idle, ?_⟩
      rw [Connection.greeting, idle]
      exact List.forall_mem_nil _
  | closes connection notOpen same => exact ⟨same.trans idle, List.forall_mem_nil _⟩
  | beats => exact ⟨idle, quiet_sending (.inl rfl) link.connection⟩
  | rests => exact ⟨idle, List.forall_mem_nil _⟩

theorem quiet_messages
    (idle : link.connection.current = none)
    {operations : List Operation}
    (askNothing : ∀ operation ∈ operations, operation.asks = false) :
    Quiet (link.messages operations) := by
  induction operations generalizing link with
  | nil => exact List.forall_mem_nil _
  | cons operation rest inductionHypothesis =>
      obtain ⟨asksNothing, restAsksNothing⟩ := List.forall_mem_cons.mp askNothing
      obtain ⟨stillIdle, quiet⟩ := (effect_perform link operation).quiet idle asksNothing
      rw [messages, Quiet, List.forall_mem_append]
      exact ⟨quiet, inductionHypothesis stillIdle restAsksNothing⟩

end Link

namespace Session

/-- Whether an operation ends the stream: it is stopped, or following it is. -/
def endsStream (session : Session) : Operation → Bool
  | .stop | .handle .stop _ => true
  | .toggleFollow | .handle .toggleFollow _ => session.follow
  | _ => false

/-- An operation that ends the stream stops the link. -/
theorem link_perform_of_endsStream
    {session : Session}
    {operation : Operation}
    (ends : session.endsStream operation = true) :
    session.link.perform operation = session.link.stop := by
  unfold endsStream at ends
  split at ends
  · rfl
  · rfl
  · exact if_pos ends
  · exact if_pos ends
  · cases ends

/-- When the stream was ended, nothing is asked for until the user asks again. -/
theorem quiet_messages_of_endsStream
    {session : Session}
    {operation : Operation}
    {later : List Operation}
    (ends : session.endsStream operation = true)
    (askNothing : ∀ operation ∈ later, operation.asks = false) :
    Link.Quiet (session.messages (operation :: later)) := by
  rw [messages_eq, Link.messages, link_perform_of_endsStream ends, Link.Quiet,
    List.forall_mem_append]
  exact ⟨Link.quiet_stop session.link, Link.quiet_messages rfl askNothing⟩

theorem state_ofOptions (options : SessionOptions) :
    (ofOptions options).connection.state = .connecting :=
  rfl

theorem current_ofOptions (options : SessionOptions) :
    (ofOptions options).connection.current = none :=
  rfl

/-- Client and server agree. -/
structure Agrees (start : Session) (operations : List Operation) : Prop where
  /-- An operation adds messages behind the queued ones, and it adds some only while the connection
  is open and when it opens. -/
  queued : ∀ operation,
    (operation ≠ .takeOutbound →
      ((start.run operations).perform operation).outbound.toList =
        (start.run operations).outbound.toList ++ (start.run operations).added operation) ∧
    ((start.run operations).added operation ≠ [] →
      (start.run operations).connection.state = .opened ∨ operation = .connected)
  /-- While the connection is open, a server that has listened since it opened last takes the
  current command to be the current one. -/
  heard : (start.run operations).connection.state = .opened →
    ∃ before since, operations = before ++ .connected :: since ∧ .connected ∉ since ∧
      ((start.run before).messages (.connected :: since)).foldl Command.hear none =
        (start.run operations).connection.current.map Command.wire
  /-- The current command asks for the file on show, and follows it exactly if that is wished
  for. -/
  settled : ∀ command, (start.run operations).connection.current = some command →
    (start.run operations).selection = some ⟨command.file, command.amount⟩ ∧
      (command.mode = .follow ↔ (start.run operations).follow = true)
  /-- When the stream is ended, no file is asked for until the user asks for one. -/
  ended : ∀ operation later, (start.run operations).endsStream operation = true →
    (∀ other ∈ later, other.asks = false) →
    ∀ message ∈ (start.run operations).messages (operation :: later),
      message = Command.pingMessage ∨ message = Command.stopMessage

/-- Whatever is done to a session, and however often its connection opens, client and server agree
on the current command. -/
theorem agrees_run (options : SessionOptions) (operations : List Operation) :
    Agrees (ofOptions options) operations where
  queued := by
    intro operation
    refine ⟨outbound_perform _, ?_⟩
    rw [added_eq]
    exact (Link.effect_perform _ operation).opened_of_messages_ne_nil
  heard := by
    intro isOpen
    have sameLink := link_run (ofOptions options) operations
    have closedAtStart : (ofOptions options).link.connection.state ≠ .opened := by
      change (ofOptions options).connection.state ≠ .opened
      rw [state_ofOptions]
      decide
    have linkOpen : ((ofOptions options).link.run operations).connection.state = .opened := by
      rw [← sameLink]
      exact isOpen
    obtain ⟨before, since, split, notSince, agree⟩ :=
      Link.heard_run closedAtStart operations linkOpen
    refine ⟨before, since, split, notSince, ?_⟩
    rw [messages_eq, link_run, agree, ← sameLink]
    rfl
  settled := by
    intro command isCurrent
    have settledAtStart : (ofOptions options).link.Settled := by
      intro command isCurrent
      exact absurd ((current_ofOptions options).symm.trans isCurrent) nofun
    have settled : ((ofOptions options).run operations).link.Settled := by
      rw [link_run]
      exact Link.settled_run settledAtStart operations
    obtain ⟨selected, wished⟩ := settled command isCurrent
    refine ⟨selected, ?_⟩
    rw [wished]
    change Command.Mode.ofFollow ((ofOptions options).run operations).follow = _ ↔ _
    cases ((ofOptions options).run operations).follow <;> decide
  ended := fun _ _ ends askNothing => quiet_messages_of_endsStream ends askNothing

/-- A file is opened before the connection is; the stream is ended, and is wished for again while
the connection is lost. -/
example :
    let session := (ofOptions {}).run
      [.openFile "app.log" .standard, .connected, .heartbeat, .stop, .disconnected "lost",
        .toggleFollow, .heartbeat, .dial, .connected, .heartbeat]
    session.outbound =
        #["follow:1mb:app.log", "ping", "stop", "follow:1mb:app.log", "ping"] ∧
      session.connection.current = some ⟨.follow, .standard, "app.log"⟩ := by
  decide +kernel

end Session
end TailView
