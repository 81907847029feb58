/-!
# Severities and the markers that announce them

A line announces a severity by a marker such as `*ERROR*`.  Of several markers in one line the
earliest decides.
-/

namespace TailView

/-- How serious the lines of a section are. -/
inductive Severity
  | trace
  | debug
  | info
  | warn
  | error
deriving DecidableEq, Repr

namespace Severity

/-- Every severity once. -/
def all : List Severity := [.error, .warn, .info, .debug, .trace]

/-- The name of a severity. -/
def name : Severity → String
  | .trace => "trace"
  | .debug => "debug"
  | .info => "info"
  | .warn => "warn"
  | .error => "error"

/-- The text that announces a severity. -/
def marker : Severity → String
  | .trace => "*TRACE*"
  | .debug => "*DEBUG*"
  | .info => "*INFO*"
  | .warn => "*WARN*"
  | .error => "*ERROR*"

/-- Where the marker of a severity stands first in a text whose first character has a given
position. -/
def findFrom? (severity : Severity) (position : Nat) : List Char → Option Nat
  | [] => none
  | c :: rest =>
      if severity.marker.toList.isPrefixOf (c :: rest) then some position
      else severity.findFrom? (position + 1) rest

/-- The severities of a table whose markers stand in a text, each with the first position of its
marker. -/
def hits (table : List Severity) (cs : List Char) : List (Nat × Severity) :=
  table.filterMap fun severity =>
    (severity.findFrom? 0 cs).map fun position => (position, severity)

/-- Of markers that were found the one with the least position; of several such the first. -/
def earliest? : List (Nat × Severity) → Option (Nat × Severity)
  | [] => none
  | first :: rest =>
      match earliest? rest with
      | some other => if other.1 < first.1 then some other else some first
      | none => some first

/-- The severity of the earliest marker in a text, of the severities in a table. -/
def firstMarkerIn? (table : List Severity) (cs : List Char) : Option Severity :=
  (earliest? (hits table cs)).map (·.2)

/-- The severity of the earliest marker in a text. -/
def firstMarker? (cs : List Char) : Option Severity := firstMarkerIn? all cs

/-- Whether the marker of a severity stands anywhere in a text. -/
def hasMarker (severity : Severity) : List Char → Bool
  | [] => false
  | c :: rest => severity.marker.toList.isPrefixOf (c :: rest) || severity.hasMarker rest

end Severity
end TailView
