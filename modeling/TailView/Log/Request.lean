import TailView.Number.Integer
import TailView.Pattern.Compiled

/-!
# Request and response lines

A request logger writes `… [7] -> GET …` when a request arrives and `… [7] <- 200 …` when it is
answered.  Each kind of line has a pattern, and what its groups match is read as numbers.  If that
fails, because they are not ASCII or do not fit, the line is no request or response.
-/

namespace TailView
namespace Request

open Pattern

/-- The start of a request: its number and its method. -/
structure Start where
  /-- The number that the answer repeats. -/
  id : Nat
  /-- The method, in capital letters. -/
  method : String
deriving DecidableEq, Repr

/-- The end of a request: its number and the status of the answer. -/
structure End where
  /-- The number of the request. -/
  id : Nat
  /-- The status, three digits. -/
  status : Nat
deriving DecidableEq, Repr

/-- The pattern for lines with a request. -/
def startPattern : String :=
  "^(?P<prefix>.*?)\\[(?P<id>\\d+)\\] -> (?P<method>[A-Z]+) (?P<rest>.*)$"

/-- The pattern for lines with an answer. -/
def endPattern : String :=
  "^(?P<prefix>.*?)\\[(?P<id>\\d+)\\] <- (?P<status>\\d\x7b3\x7d) (?P<rest>.*)$"

/-- The compiled pattern for requests. -/
def startCompiled : Except Fault Compiled := Compiled.ofPattern false startPattern

/-- The compiled pattern for answers. -/
def endCompiled : Except Fault Compiled := Compiled.ofPattern false endPattern

/-- The start of a request in a line. -/
def start? (line : List Char) : Option Start := do
  let compiled ← startCompiled.toOption
  let captures ← compiled.captures? line
  let id ← Number.readBelow? UInt64.size (← captures.text? "id")
  let method ← captures.text? "method"
  return ⟨id, String.ofList method⟩

/-- The end of a request in a line. -/
def end? (line : List Char) : Option End := do
  let compiled ← endCompiled.toOption
  let captures ← compiled.captures? line
  let id ← Number.readBelow? UInt64.size (← captures.text? "id")
  let status ← Number.readBelow? UInt16.size (← captures.text? "status")
  return ⟨id, status⟩

end Request
end TailView
