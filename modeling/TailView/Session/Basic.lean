import TailView.Filter
import TailView.Link.Connection
import TailView.Log.Classifier
import TailView.Log.ErrorFocus
import TailView.Log.LineBuffer
import TailView.Log.Scrollback
import TailView.Session.Control
import TailView.Session.Debounce

/-!
# Sessions

A session is one live view of one log.  Bytes from the server become lines, lines become entries,
entries go into the scrollback and, if they are errors, into the view of errors; the filter says
which are seen.  A session does no input or output: messages for the server and changes of the view
on show are queued until they are taken.
-/

namespace TailView

/-- A change of the view on show. -/
inductive Update
  /-- An entry was added at the end. -/
  | appended (id : EntryId)
  /-- A section grew by a line. -/
  | patched (id : EntryId)
  /-- The view is to be shown anew. -/
  | redraw
deriving DecidableEq, Repr

/-- The file on show, and how much of it was asked for. -/
structure Selection where
  /-- The name of the file. -/
  file : String
  /-- How much of it was asked for. -/
  amount : Amount
deriving DecidableEq

/-- Where the counterpart of an entry is. -/
inductive Counterpart
  /-- In the scrollback. -/
  | found (entry : Entry)
  /-- It was seen but is no longer kept. -/
  | evicted (id : EntryId)
  /-- It was not seen. -/
  | missing
deriving DecidableEq

/-- How a session is set up.  Times are milliseconds. -/
structure SessionOptions where
  /-- Which markers open a section. -/
  sectionRule : SectionRule := .errorOnly
  /-- How filter texts are understood. -/
  filterMode : Filter.Mode := .regex
  /-- Whether case does not count for the filter. -/
  caseless : Bool := false
  /-- How long typing has to pause before a filter text takes effect. -/
  debounce : Nat := 300
  /-- The estimated length of a line, by which amounts become capacities. -/
  bytesPerLine : Nat := 100
  /-- Whether appended text is wanted. -/
  follow : Bool := true
  /-- The times that the connection keeps. -/
  policy : Connection.Policy := {}
deriving DecidableEq, Repr

/-- One live view of one log. -/
structure Session where
  /-- The bytes that wait for the end of their line. -/
  lines : LineBuffer := {}
  /-- What is carried from line to line. -/
  classifier : Classifier
  /-- The main view. -/
  scrollback : Scrollback
  /-- The view of errors. -/
  focus : ErrorFocus := {}
  /-- The filter of both views. -/
  filter : Filter
  /-- The filter text that was typed but has not taken effect. -/
  typed : Debouncer String
  /-- The connection to the server. -/
  connection : Connection
  /-- The estimated length of a line. -/
  bytesPerLine : Nat
  /-- Whether appended text is wanted. -/
  follow : Bool
  /-- The file on show. -/
  selection : Option Selection := none
  /-- The messages for the server that were not taken yet, the oldest first. -/
  outbound : Array String := #[]
  /-- The changes of the view on show that were not taken yet, the oldest first. -/
  updates : Array Update := #[]

namespace Session

/-- A session in which nothing has happened. -/
def ofOptions (options : SessionOptions) : Session where
  classifier := { rule := options.sectionRule }
  scrollback := .ofCapacity (Amount.standard.capacity options.bytesPerLine)
  filter := { mode := options.filterMode, caseless := options.caseless }
  typed := { quiet := options.debounce }
  connection := { policy := options.policy }
  bytesPerLine := options.bytesPerLine
  follow := options.follow

/-- Queues messages for the server. -/
def send (session : Session) (messages : List String) : Session :=
  { session with outbound := session.outbound ++ messages }

/-- Queues a change of the view on show. -/
def announce (session : Session) (update : Update) : Session :=
  { session with updates := session.updates.push update }

/-- The entries of the view on show, seen or not. -/
def activeView (session : Session) : List Entry :=
  if session.focus.active then session.focus.sections.toList else session.scrollback.entries.toList

/-- The entry of the view on show with a given id. -/
def activeEntry? (session : Session) (id : EntryId) : Option Entry :=
  if session.focus.active then session.focus.find? id else session.scrollback.find? id

/-- Where the counterpart of an entry is. -/
def counterpart (session : Session) (entry : Entry) : Counterpart :=
  match entry.counterpart with
  | none => .missing
  | some id =>
      match session.scrollback.find? id with
      | some found => .found found
      | none => .evicted id

/-- How many errors were seen. -/
def errorCount (session : Session) : Nat := session.focus.sections.size

/-! ## Lines and notices -/

/-- Folds a line into the open section, in both views, and looks again whether it is seen. -/
def growSection (session : Session) (id : EntryId) (line : String) : Session :=
  let inMain := session.scrollback.contains id
  let session :=
    if inMain then
      { session with
        scrollback := (session.scrollback.addLine id line).update id session.filter.apply }
    else session
  let session :=
    if inMain && !session.focus.active then session.announce (.patched id) else session
  match session.focus.addLine? id line with
  | none => session
  | some focus =>
      let session := { session with focus := focus.updateLast id session.filter.apply }
      if session.focus.active then session.announce (.patched id) else session

/-- Adds an entry to the main view, and to the view of errors if it is one. -/
def addEntry (session : Session) (entry : Entry) : Session :=
  let entry := session.filter.apply entry
  let session :=
    if entry.isError then { session with focus := session.focus.add entry } else session
  let scrollback := (session.scrollback.append entry).1
  let scrollback :=
    match entry.kind, entry.counterpart with
    | .requestEnd, some request => scrollback.link request entry.id
    | _, _ => scrollback
  let session := { session with scrollback }
  if !session.focus.active || entry.isError then session.announce (.appended entry.id) else session

/-- Takes in one complete line. -/
def addLine (session : Session) (line : String) : Session :=
  let (entry, classifier) := session.classifier.classify line
  let session := { session with classifier }
  if entry.kind = .continuation then session.growSection entry.id line
  else session.addEntry entry

/-- Adds a message of the viewer itself to the main view. -/
def note (session : Session) (text : String) : Session :=
  let (entry, classifier) := session.classifier.info text
  { session with classifier }.addEntry entry

/-- Takes in what arrived from the server. -/
def receive (session : Session) : Payload → Session
  | .binary bytes =>
      let (buffer, lines) := session.lines.feed bytes
      lines.foldl addLine { session with lines := buffer }
  | .text notice => if notice = Command.pongMessage then session else session.note notice
  | .unsupported _ => session

/-- Takes the bytes that still wait as a line, when the stream has ended. -/
def endStream (session : Session) : Session :=
  match session.lines.flush with
  | some line => { session with lines := .empty }.addLine line
  | none => session

/-! ## What the user asks for -/

/-- Forgets what is carried from line to line. -/
def resetStream (session : Session) : Session :=
  { session with lines := .empty, classifier := session.classifier.reset }

/-- Empties both views. -/
def resetView (session : Session) : Session :=
  let session := session.resetStream
  { session with scrollback := session.scrollback.clear, focus := session.focus.clear }.announce
    .redraw

/-- Opens a file: empties the views and asks the server for an amount of it. -/
def openFile (session : Session) (file : String) (amount : Amount) : Session :=
  let session := { session with selection := some ⟨file, amount⟩ }.resetView
  let (connection, message) :=
    session.connection.issue ⟨Command.Mode.ofFollow session.follow, amount, file⟩
  { session with
    scrollback := session.scrollback.setCapacity (amount.capacity session.bytesPerLine)
    connection }.send message.toList

/-- Opens the file on show again. -/
def reload (session : Session) : Session :=
  match session.selection with
  | some selection => session.openFile selection.file selection.amount
  | none => session

/-- Ends the stream; the views stay. -/
def stop (session : Session) : Session :=
  let session := { session with follow := false }.resetStream
  let (connection, message) := session.connection.stop
  { session with connection }.send message.toList

/-- Switches between following the file and not. -/
def toggleFollow (session : Session) : Session :=
  if session.follow then session.stop else { session with follow := true }.reload

/-- Switches between all entries and errors only. -/
def toggleErrorFocus (session : Session) : Session :=
  { session with focus := session.focus.toggle }.announce .redraw

/-- Makes a text the filter at once. -/
def setFilter (session : Session) (text : String) : Session :=
  let filter := session.filter.setText text
  { session with
    typed := session.typed.cancel
    filter
    scrollback := session.scrollback.updateAll filter.apply
    focus := session.focus.updateAll filter.apply }.announce .redraw

/-- Notes a filter text that was typed; it takes effect when typing has paused. -/
def typeFilter (session : Session) (text : String) (now : Nat) : Session :=
  { session with typed := session.typed.push text now }

/-- Makes the typed text the filter if it is due. -/
def pollFilter (session : Session) (now : Nat) : Session :=
  match session.typed.poll now with
  | (some text, _) => session.setFilter text
  | (none, _) => session

/-- Does what the user asks for; leaving the viewer is not up to the session. -/
def handle (session : Session) (control : Control) (now : Nat) : Session :=
  match control with
  | .openFile file amount => session.openFile file amount
  | .filter text => session.typeFilter text now
  | .toggleErrorFocus => session.toggleErrorFocus
  | .toggleFollow => session.toggleFollow
  | .stop => session.stop
  | .reload => session.reload
  | .quit => session

/-! ## What happens to the connection -/

/-- An attempt to connect starts. -/
def dial (session : Session) : Session :=
  { session with connection := session.connection.dial }

/-- The connection is open.  If it has been open before, the current command is answered from the
start, so the views are emptied first. -/
def connected (session : Session) : Session :=
  let session :=
    if session.connection.openedBefore && session.connection.current.isSome then session.resetView
    else session
  { session with connection := session.connection.opened }.send session.connection.greeting

/-- A time in milliseconds as seconds with one place after the point. -/
def secondsText (milliseconds : Nat) : String :=
  ((Number.Binary64.ofRatio false (milliseconds / 1000) 1).addUnsigned
    (Number.Binary64.ofRatio false (milliseconds % 1000) 1000)).fixedText 1

/-- The connection was closed or an attempt has failed. -/
def disconnected (session : Session) (reason : String) : Session :=
  let session := { session with connection := session.connection.closed }
  session.note ("connection closed (" ++ reason ++ "), reconnecting in " ++
    secondsText session.connection.delay ++ "s")

/-- It is time to keep the connection alive. -/
def heartbeat (session : Session) : Session := session.send session.connection.heartbeat.toList

/-- The queued messages are taken. -/
def takeOutbound (session : Session) : Session := { session with outbound := #[] }

/-- The queued changes are taken. -/
def takeUpdates (session : Session) : Session := { session with updates := #[] }

end Session
end TailView
