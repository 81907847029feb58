import TailView.Session.Offline

/-!
# The loop around a session

The loop dials the server, and while it waits for the next attempt it serves the user and makes a
typed filter text the filter when that is due.  Of several things that it can do at a moment it may
do any.  This is the loop for a server that cannot be reached: every attempt fails, for a given
reason.  Times are milliseconds.
-/

namespace TailView
namespace Session

namespace Loop

/-- Where the loop stands. -/
inductive Stage
  /-- The next attempt to connect is to start. -/
  | ready
  /-- An attempt to connect is under way. -/
  | dialling
  /-- An attempt has failed; the next one starts at a given time. -/
  | waiting (wake : Nat)
  /-- The user has left. -/
  | left
deriving DecidableEq, Repr

/-- What the loop does, and what happens around it. -/
inductive Event
  /-- Time passes. -/
  | pass (time : Nat)
  /-- The user asks for something. -/
  | ask (control : Control)
  /-- An attempt to connect starts. -/
  | dial
  /-- The attempt fails. -/
  | fail
  /-- The oldest wish of the user is taken from the queue. -/
  | serve
  /-- No wish waits, and nobody is there to ask for anything more. -/
  | hangUp
  /-- The typed filter text is due. -/
  | applyFilter
  /-- The waiting for the next attempt is over. -/
  | wake
deriving DecidableEq

/-- Whether an event is something that the loop does. -/
def Event.isWork : Event → Bool
  | .pass _ | .ask _ => false
  | .dial | .fail | .serve | .hangUp | .applyFilter | .wake => true

end Loop

/-- The loop around a session. -/
structure Loop where
  /-- The session that is shown. -/
  session : Session
  /-- Where the loop stands. -/
  stage : Loop.Stage := .ready
  /-- What the user asked for and was not served yet, the oldest first. -/
  wishes : List Control
  /-- Whether the user may still ask for something. -/
  listening : Bool := true
  /-- The moments when the display was refreshed, in order. -/
  moments : List Moment := []
  /-- The time. -/
  now : Nat

namespace Loop

/-- The display is refreshed. -/
def render (loop : Loop) (moment : Moment) : Loop :=
  { loop with session := moment.session, moments := loop.moments ++ [moment] }

/-- The loop after an event, if that can happen. -/
def step? (reason : String) (loop : Loop) : Event → Option Loop
  | .pass time => some { loop with now := loop.now + time }
  | .ask control =>
      if loop.listening && loop.stage ≠ .left then
        some { loop with wishes := loop.wishes ++ [control] }
      else none
  | .dial =>
      match loop.stage with
      | .ready => some { loop.render loop.session.dial.refresh with stage := .dialling }
      | _ => none
  | .fail =>
      match loop.stage with
      | .dialling =>
          let moment := (loop.session.disconnected reason).refresh
          some { loop.render moment with
            stage := .waiting (loop.now + moment.session.connection.delay) }
      | _ => none
  | .serve =>
      match loop.stage, loop.listening, loop.wishes with
      | .waiting _, true, .quit :: rest => some { loop with stage := .left, wishes := rest }
      | .waiting _, true, control :: rest =>
          some { loop.render (loop.session.serveOne control loop.now) with wishes := rest }
      | _, _, _ => none
  | .hangUp =>
      match loop.stage, loop.listening, loop.wishes with
      | .waiting _, true, [] =>
          some { loop.render loop.session.takeOutbound.refresh with listening := false }
      | _, _, _ => none
  | .applyFilter =>
      match loop.stage, loop.session.typed.deadline with
      | .waiting _, some due =>
          if due ≤ loop.now then
            some (loop.render (loop.session.pollFilter loop.now).takeOutbound.refresh)
          else none
      | _, _ => none
  | .wake =>
      match loop.stage with
      | .waiting wake => if wake ≤ loop.now then some { loop with stage := .ready } else none
      | _ => none

/-- The loop after some events, if they can happen one after the other. -/
def run? (reason : String) (loop : Loop) : List Event → Option Loop
  | [] => some loop
  | event :: rest => (loop.step? reason event).bind fun next => next.run? reason rest

end Loop
end Session
end TailView
