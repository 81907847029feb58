import TailView.Log.Entry
import TailView.Pattern.Compiled

/-!
# The filter

The filter hides entries whose text does not match; it removes nothing.  A pattern that cannot be
compiled disables the filter, so that all entries are seen, and is kept as the error to show; the
pattern before it is remembered.
-/

namespace TailView

namespace Filter

/-- How the text of a filter is understood. -/
inductive Mode
  /-- As a pattern. -/
  | regex
  /-- As it stands. -/
  | literal
deriving DecidableEq, Repr

/-- The name of a mode. -/
def Mode.name : Mode → String
  | .regex => "regex"
  | .literal => "literal"

/-- A pattern that was refused. -/
structure Rejection where
  /-- The pattern as it was typed. -/
  pattern : String
  /-- Why it was refused. -/
  fault : Pattern.Fault
deriving DecidableEq, Repr

/-- What the user is told about a refused pattern. -/
def Rejection.message (rejection : Rejection) : String :=
  "invalid filter pattern '" ++ rejection.pattern ++ "': " ++ rejection.fault.message

end Filter

/-- The filter of a session. -/
structure Filter where
  /-- How filter texts are understood. -/
  mode : Filter.Mode
  /-- Whether case does not count. -/
  caseless : Bool
  /-- The last pattern that was accepted, and its compiled form; none if that was empty. -/
  accepted : Option (String × Pattern.Compiled) := none
  /-- The pattern that was refused since then. -/
  rejection : Option Filter.Rejection := none

namespace Filter

/-- Compiles a filter text. -/
def compile (filter : Filter) (text : String) : Except Pattern.Fault Pattern.Compiled :=
  match filter.mode with
  | .regex => Pattern.Compiled.ofPattern filter.caseless text
  | .literal => Pattern.Compiled.ofLiteral filter.caseless text

/-- Makes a text the filter: an empty text clears it, and a text that cannot be compiled disables
it. -/
def setText (filter : Filter) (text : String) : Filter :=
  if text.isEmpty then { filter with accepted := none, rejection := none }
  else
    match filter.compile text with
    | .ok compiled => { filter with accepted := some (text, compiled), rejection := none }
    | .error fault => { filter with rejection := some ⟨text, fault⟩ }

/-- The last pattern that was accepted, also while the filter is disabled. -/
def pattern (filter : Filter) : Option String := filter.accepted.map (·.1)

/-- The compiled pattern that is applied now. -/
def active (filter : Filter) : Option Pattern.Compiled :=
  if filter.rejection.isSome then none else filter.accepted.map (·.2)

/-- Whether an entry with this text is seen. -/
def isVisible (filter : Filter) (text : String) : Bool :=
  filter.active.all (·.isMatch text)

/-- An entry with its visibility set. -/
def apply (filter : Filter) (entry : Entry) : Entry :=
  { entry with visible := filter.isVisible entry.text }

end Filter
end TailView
