import TailView.Session.Operation

/-!
# Running without a server

When the server cannot be reached the viewer still serves the user.  An attempt to connect fails
with a reason, and while the viewer waits for the next attempt it does what the user asks for.
After each of these steps the changes of the view on show are handed to the display.
-/

namespace TailView
namespace Session

/-- A moment when the display is refreshed: the session, and the changes it has to show. -/
structure Moment where
  /-- The session, whose changes were taken. -/
  session : Session
  /-- The changes that were taken. -/
  updates : List Update

/-- The moment at which the queued changes are taken. -/
def refresh (session : Session) : Moment := ⟨session.takeUpdates, session.updates.toList⟩

/-- One wish of the user while the viewer waits.  Messages are dropped, since nothing can be sent. -/
def serveOne (session : Session) (control : Control) (now : Nat) : Moment :=
  (session.handle control now).takeOutbound.refresh

/-- What the user asked for while the viewer waits, up to the first wish to leave.  Also tells whether
the user left. -/
def serve (now : Nat) (session : Session) : List Control → List Moment × Bool
  | [] => ([], false)
  | .quit :: _ => ([], true)
  | control :: rest =>
      let moment := session.serveOne control now
      let (moments, left) := serve now moment.session rest
      (moment :: moments, left)

/-- An attempt to connect that fails: the moment when it starts, and the moment when it has failed. -/
def failToConnect (session : Session) (reason : String) : Moment × Moment :=
  let dialling := session.dial.refresh
  (dialling, (dialling.session.disconnected reason).refresh)

/-- What happened while the server could not be reached. -/
structure OfflineRun where
  /-- The moments when the display was refreshed, in order. -/
  moments : List Moment
  /-- The session at the end. -/
  last : Session
  /-- Whether the user left. -/
  left : Bool

/-- The session of the last moment, or a given one. -/
def lastSession (session : Session) (moments : List Moment) : Session :=
  match moments.getLast? with
  | some moment => moment.session
  | none => session

/-- One failed attempt to connect, and then what the user asks for. -/
def runOffline (session : Session) (reason : String) (controls : List Control) (now : Nat) :
    OfflineRun :=
  let (dialling, failed) := session.failToConnect reason
  let (moments, left) := serve now failed.session controls
  ⟨dialling :: failed :: moments, lastSession failed.session moments, left⟩

/-- The reason for a failed attempt when the address is of a kind that cannot be dialled. -/
def unsupportedAddress : String := "URL error: URL scheme not supported"

end Session
end TailView
