import TailView.Session.Basic
import TailView.Text.Escape
import TailView.Text.Style

/-!
# Entries on the terminal

Each line of an entry is printed without escape sequences of its own, in the style of its kind.
Behind the first line of a request or an answer stands where its counterpart is.
-/

namespace TailView
namespace Display

open Text

/-- The style of a section by its severity. -/
def severityStyle : Option Severity → Style
  | some .error => .colored .red
  | some .warn => .colored .yellow
  | some .info => .plain
  | some .debug => { dimmed := true }
  | some .trace => { dimmed := true }
  | none => .plain

/-- The style of an answer by its status. -/
def statusStyle (line : String) : Style :=
  match Request.end? line.toList with
  | some answer =>
      if 500 ≤ answer.status then .colored .red
      else if 400 ≤ answer.status then .colored .yellow
      else .colored .green
  | none => .plain

/-- The style of the first line of an entry. -/
def headStyle (entry : Entry) (line : String) : Style :=
  match entry.kind with
  | .sectionHead => { severityStyle entry.severity with bold := true }
  | .requestStart => .colored .cyan
  | .requestEnd => statusStyle line
  | .info => { dimmed := true, italic := true }
  | .plain => .plain
  | .continuation => .plain

/-- The style of the further lines of an entry. -/
def tailStyle (entry : Entry) : Style :=
  if entry.isSection then severityStyle entry.severity else .plain

/-- The first line of an entry. -/
def headLine (colors : Bool) (entry : Entry) (line : String) : String :=
  let stripped := Escape.strip line
  (headStyle entry stripped).paint colors stripped

/-- A further line of an entry. -/
def tailLine (colors : Bool) (entry : Entry) (line : String) : String :=
  (tailStyle entry).paint colors (Escape.strip line)

/-- Where the answer to a request, or the request of an answer, is. -/
def correlationHint (session : Session) (entry : Entry) : Option String :=
  match entry.correlationId with
  | none => none
  | some number =>
      let mark := "[" ++ toString number ++ "] "
      match entry.kind, session.counterpart entry with
      | .requestStart, .found answer => some (mark ++ "answered by " ++ answer.id.display)
      | .requestStart, .evicted id => some (mark ++ "answered by " ++ id.display ++ " (no longer in view)")
      | .requestStart, .missing => some (mark ++ "response not logged yet")
      | .requestEnd, .found request => some (mark ++ "request " ++ request.id.display)
      | .requestEnd, .evicted id => some (mark ++ "request " ++ id.display ++ " no longer in view")
      | .requestEnd, .missing => some (mark ++ "no matching request seen")
      | _, _ => none

/-- What stands behind the first line. -/
def hintText (colors : Bool) (hint : Option String) : String :=
  match hint with
  | some hint => "  " ++ Style.paint { dimmed := true } colors hint
  | none => ""

/-- An entry as it is printed. -/
def entryText (colors correlation : Bool) (session : Session) (entry : Entry) : String :=
  let hint := hintText colors (if correlation then correlationHint session entry else none)
  match entry.lines with
  | [] => ""
  | first :: rest =>
      "\n".intercalate ((headLine colors entry first ++ hint) :: rest.map (tailLine colors entry))

end Display
end TailView
