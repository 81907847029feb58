import TailView.Session.Basic
import TailView.Text.Style

/-!
# The status line

One line says where the connection stands, what is on show, how many errors there are, and what the
filter does.
-/

namespace TailView
namespace Display

open Text

/-- The style of a state of the connection. -/
def stateStyle : Connection.State → Style
  | .opened => .colored .green
  | .connecting => .colored .yellow
  | .closed => .colored .red

/-- The state of the connection, in brackets. -/
def stateText (colors : Bool) (session : Session) : String :=
  let state := session.connection.state
  "[" ++ (stateStyle state).paint colors state.name ++ "]"

/-- The file on show. -/
def selectionText (colors : Bool) (session : Session) (selection : Selection) : String :=
  (Command.Mode.ofFollow session.follow).name ++ " " ++
    Style.paint { bold := true } colors selection.file ++ " (" ++ selection.amount.text ++ ")"

/-- How many errors there are. -/
def errorsText (colors : Bool) (session : Session) : String :=
  let text := "errors: " ++ toString session.errorCount
  if session.errorCount = 0 then text else (Style.colored .red).paint colors text

/-- What the filter does. -/
def filterText (colors : Bool) (session : Session) : Option String :=
  match session.filter.rejection, session.filter.pattern with
  | some rejection, _ =>
      some ((Style.colored .red).paint colors ("filter disabled: " ++ rejection.message))
  | none, some pattern => some ("filter: " ++ pattern)
  | none, none => none

/-- The status line of a session. -/
def statusLine (colors : Bool) (session : Session) : String :=
  " | ".intercalate (
    [stateText colors session] ++
    (session.selection.map (selectionText colors session)).toList ++
    [errorsText colors session] ++
    (if session.focus.active then [(Style.colored .magenta).paint colors "error focus"] else []) ++
    (filterText colors session).toList)

end Display
end TailView
