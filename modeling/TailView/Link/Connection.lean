import TailView.Link.Command

/-!
# The connection to the server

The connection decides what to send and how long to wait before the next attempt; it does no
input or output.  Whenever it opens, the current command is sent again, so that the view goes on
where the user left it.  Times are milliseconds.
-/

namespace TailView

namespace Connection

/-- Where the connection stands. -/
inductive State
  | connecting
  | opened
  | closed
deriving DecidableEq, Repr

/-- The name of a state. -/
def State.name : State → String
  | .connecting => "connecting"
  | .opened => "open"
  | .closed => "closed"

/-- The times that a connection keeps. -/
structure Policy where
  /-- The time between two messages that keep the connection alive. -/
  heartbeat : Nat := 10000
  /-- The delay before the first new attempt. -/
  reconnect : Nat := 3000
  /-- The ceiling of the delay, unless the first delay is above it. -/
  ceiling : Nat := 3000
deriving DecidableEq, Repr

/-- How often the delay can double. -/
def maxDoublings : Nat := 16

/-- The greatest number of failures that is counted. -/
def maxFailures : Nat := UInt32.size - 1

/-- The longest time that can be kept, in whole milliseconds; its seconds have 64 bits. -/
def longestTime : Nat := UInt64.size * 1000 - 1

/-- So many times as long a time, or the longest time if that is too long to be kept. -/
def timesAsLong (factor : UInt32) (time : Nat) : Nat := min (time * factor.toNat) longestTime

/-- The delay before the given attempt, counted from one: it doubles from attempt to attempt up to
the ceiling. -/
def Policy.delay (policy : Policy) (attempt : Nat) : Nat :=
  let doublings := min (attempt - 1) maxDoublings
  min (timesAsLong (1 <<< UInt32.ofNat doublings) policy.reconnect)
    (max policy.ceiling policy.reconnect)

end Connection

/-- The connection to the server. -/
structure Connection where
  /-- Where the connection stands. -/
  state : Connection.State := .connecting
  /-- The times that it keeps. -/
  policy : Connection.Policy
  /-- The command to send again whenever the connection opens. -/
  current : Option Command := none
  /-- How often it was closed since it was last open, as far as that is counted. -/
  failures : Nat := 0
  /-- Whether it has been open before. -/
  openedBefore : Bool := false
deriving DecidableEq

namespace Connection

/-- Whether messages can be sent. -/
def isOpen (connection : Connection) : Bool := connection.state = .opened

/-- An attempt to connect starts. -/
def dial (connection : Connection) : Connection := { connection with state := .connecting }

/-- The messages to send when the connection opens. -/
def greeting (connection : Connection) : List String := (connection.current.map Command.wire).toList

/-- The attempt has succeeded. -/
def opened (connection : Connection) : Connection :=
  { connection with state := .opened, failures := 0, openedBefore := true }

/-- The connection was closed or the attempt failed. -/
def closed (connection : Connection) : Connection :=
  { connection with state := .closed, failures := min (connection.failures + 1) maxFailures }

/-- The delay before the next attempt. -/
def delay (connection : Connection) : Nat := connection.policy.delay connection.failures

/-- A message if it can be sent now. -/
def sending (connection : Connection) (message : String) : Option String :=
  if connection.isOpen then some message else none

/-- The message that keeps the connection alive. -/
def heartbeat (connection : Connection) : Option String := connection.sending Command.pingMessage

/-- Makes a command the current one, and sends it if the connection is open. -/
def issue (connection : Connection) (command : Command) : Connection × Option String :=
  ({ connection with current := some command }, connection.sending command.wire)

/-- Forgets the current command, and tells the server if the connection is open. -/
def stop (connection : Connection) : Connection × Option String :=
  ({ connection with current := none }, connection.sending Command.stopMessage)

end Connection

/-- What arrives from the server. -/
inductive Payload
  /-- Bytes of the log. -/
  | binary (bytes : List UInt8)
  /-- An answer to a heartbeat or a notice. -/
  | text (notice : String)
  /-- Anything else, with a short description. -/
  | unsupported (description : String)
deriving DecidableEq

/-- The frames that the transport delivers. -/
inductive Frame
  | binary (bytes : List UInt8)
  | text (notice : String)
  | ping
  | pong
  | close
  | raw
deriving DecidableEq

/-- The payload of a frame; frames that only serve the transport have none. -/
def Frame.payload? : Frame → Option Payload
  | .binary bytes => some (.binary bytes)
  | .text notice => some (.text notice)
  | .ping => none
  | .pong => none
  | .close => none
  | .raw => some (.unsupported "raw frame")

end TailView
