import TailView.Display.EntryText
import TailView.Display.StatusLine
import TailView.Log.EntryJson

/-!
# Printing the view on show

A terminal can only be added to.  Entries are printed as they arrive; when a section grows only its
new lines are printed; and the whole view is printed again when it changes as a whole.  A snapshot
prints what is to be seen at one moment.
-/

namespace TailView
namespace Display

open Text

/-- How entries are printed. -/
inductive Format
  /-- For a reader. -/
  | text
  /-- One JSON object for each entry; a section that grows is printed again. -/
  | json
deriving DecidableEq, Repr

namespace Format

/-- The format with a given name; every other name means text. -/
def ofName (name : Option String) : Format := if name = some "json" then .json else .text

/-- The name of a format. -/
def name : Format → String
  | .text => "text"
  | .json => "json"

end Format

/-- How the view is printed. -/
structure Look where
  /-- The format of the entries. -/
  format : Format
  /-- Whether to print where the counterparts of requests and answers are. -/
  correlation : Bool
  /-- Whether to use colours. -/
  colors : Bool
deriving DecidableEq, Repr

/-- An entry as it is printed. -/
def Look.print (look : Look) (session : Session) (entry : Entry) : String :=
  match look.format with
  | .text => entryText look.colors look.correlation session entry
  | .json => entry.json

/-- What was printed so far, as far as it matters for what is printed next. -/
structure Terminal where
  /-- How the view is printed. -/
  look : Look
  /-- The section that was printed last, and how many of its lines; none while it is hidden. -/
  lastSection : Option (EntryId × Nat) := none
  /-- The status line that was printed last. -/
  lastStatus : Option String := none
deriving DecidableEq

namespace Terminal

/-- The line that divides a view from the one printed before it. -/
def divider (colors : Bool) : String :=
  Style.paint { dimmed := true } colors (String.ofList (List.replicate 60 '-'))

/-- Prints an entry as a new one. -/
def printEntry (terminal : Terminal) (session : Session) (entry : Entry) : Terminal × List String :=
  let shown := if entry.visible then entry.lines.length else 0
  let terminal :=
    if entry.isSection then { terminal with lastSection := some (entry.id, shown) } else terminal
  (terminal, if entry.visible then [terminal.look.print session entry] else [])

/-- Prints what is new in a section: all of it if nothing of it is on the terminal. -/
def printGrowth (terminal : Terminal) (session : Session) (entry : Entry) :
    Terminal × List String :=
  let shown :=
    match terminal.lastSection with
    | some (id, shown) => if id = entry.id then shown else 0
    | none => 0
  if !entry.visible then (terminal, [])
  else
    ({ terminal with lastSection := some (entry.id, entry.lines.length) },
      if shown = 0 ∨ terminal.look.format = .json then [terminal.look.print session entry]
      else (entry.lines.drop shown).map (tailLine terminal.look.colors entry))

/-- Prints entries one after the other. -/
def printEntries (terminal : Terminal) (session : Session) : List Entry → Terminal × List String
  | [] => (terminal, [])
  | entry :: rest =>
      let (terminal, chunk) := terminal.printEntry session entry
      let (terminal, chunks) := terminal.printEntries session rest
      (terminal, chunk ++ chunks)

/-- Prints one change. -/
def printUpdate (terminal : Terminal) (session : Session) : Update → Terminal × List String
  | .redraw =>
      let (terminal, chunks) :=
        { terminal with lastSection := none }.printEntries session session.activeView
      (terminal,
        (if terminal.look.format = .text then [divider terminal.look.colors] else []) ++ chunks)
  | .appended id =>
      match session.activeEntry? id with
      | some entry => terminal.printEntry session entry
      | none => (terminal, [])
  | .patched id =>
      match session.activeEntry? id with
      | some entry => terminal.printGrowth session entry
      | none => (terminal, [])

/-- Prints changes one after the other. -/
def printUpdates (terminal : Terminal) (session : Session) : List Update → Terminal × List String
  | [] => (terminal, [])
  | update :: rest =>
      let (terminal, chunks) := terminal.printUpdate session update
      let (terminal, others) := terminal.printUpdates session rest
      (terminal, chunks ++ others)

/-- Prints the status line after a redraw, or if it is not the one printed last. -/
def printStatus (terminal : Terminal) (session : Session) (updates : List Update) :
    Terminal × List String :=
  if terminal.look.format = .json then (terminal, [])
  else
    let status := statusLine terminal.look.colors session
    if updates.contains .redraw || terminal.lastStatus != some status then
      ({ terminal with lastStatus := some status }, [status])
    else (terminal, [])

/-- Prints changes and then the status line. -/
def render (terminal : Terminal) (session : Session) (updates : List Update) :
    Terminal × List String :=
  let (terminal, chunks) := terminal.printUpdates session updates
  let (terminal, status) := terminal.printStatus session updates
  (terminal, chunks ++ status)

end Terminal

/-- What is to be seen at one moment: the visible entries of the view on show, and for a reader the
status line. -/
def snapshot (look : Look) (session : Session) : List String :=
  (session.activeView.filter (·.visible)).map (look.print session) ++
    (if look.format = .text then [statusLine look.colors session] else [])

end Display
end TailView
