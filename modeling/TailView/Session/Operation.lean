import TailView.Session.Basic

/-!
# Runs of a session

Everything that can be done to a session is an operation, and a history is a list of them.  What
holds after every operation holds after every history.
-/

namespace TailView

/-- Something that is done to a session.  Times are milliseconds. -/
inductive Operation
  | openFile (file : String) (amount : Amount)
  | reload
  | stop
  | toggleFollow
  | toggleErrorFocus
  | setFilter (text : String)
  | typeFilter (text : String) (now : Nat)
  | pollFilter (now : Nat)
  | handle (control : Control) (now : Nat)
  | connected
  | dial
  | disconnected (reason : String)
  | heartbeat
  | receive (payload : Payload)
  | endStream
  | note (text : String)
  | takeOutbound
  | takeUpdates
deriving DecidableEq

namespace Session

/-- The session after an operation. -/
def perform (session : Session) : Operation → Session
  | .openFile file amount => session.openFile file amount
  | .reload => session.reload
  | .stop => session.stop
  | .toggleFollow => session.toggleFollow
  | .toggleErrorFocus => session.toggleErrorFocus
  | .setFilter text => session.setFilter text
  | .typeFilter text now => session.typeFilter text now
  | .pollFilter now => session.pollFilter now
  | .handle control now => session.handle control now
  | .connected => session.connected
  | .dial => session.dial
  | .disconnected reason => session.disconnected reason
  | .heartbeat => session.heartbeat
  | .receive payload => session.receive payload
  | .endStream => session.endStream
  | .note text => session.note text
  | .takeOutbound => session.takeOutbound
  | .takeUpdates => session.takeUpdates

/-- The session after a history. -/
def run (session : Session) (operations : List Operation) : Session :=
  operations.foldl perform session

/-- The pieces of a list, of a given size except for the last one; a size of zero counts as one.
The bound on their number is never reached. -/
def chunksFrom {α : Type} (size : Nat) : Nat → List α → List (List α)
  | 0, _ => []
  | _, [] => []
  | bound + 1, xs => xs.take (max size 1) :: chunksFrom size bound (xs.drop (max size 1))

/-- The pieces of a list, of a given size except for the last one; a size of zero counts as one. -/
def chunks {α : Type} (size : Nat) (xs : List α) : List (List α) := chunksFrom size xs.length xs

/-- The history of opening a file whose bytes are all there, and of reading them in chunks. -/
def replayOperations (file : String) (amount : Amount) (bytes : List UInt8) (chunkSize : Nat) :
    List Operation :=
  .openFile file amount ::
    (chunks chunkSize bytes).map (fun chunk => .receive (.binary chunk)) ++ [.endStream]

end Session
end TailView
