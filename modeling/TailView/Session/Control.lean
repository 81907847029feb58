import TailView.Amount
import TailView.Text.Split

/-!
# Controls

The user steers the viewer by lines of input: `/pattern` sets the filter, `o file amount` opens a
file, and single letters do the rest.  A pattern is taken verbatim up to the line end; around
everything else blanks are ignored.
-/

namespace TailView

/-- What the user can ask for. -/
inductive Control
  /-- Open a file and fetch an amount of it. -/
  | openFile (file : String) (amount : Amount)
  /-- Filter by a pattern, once typing has paused. -/
  | filter (pattern : String)
  /-- Switch between all entries and errors only. -/
  | toggleErrorFocus
  /-- Switch between following the file and not. -/
  | toggleFollow
  /-- End the current stream. -/
  | stop
  /-- Fetch the current file again. -/
  | reload
  /-- Leave the viewer. -/
  | quit
deriving DecidableEq

/-- Why a line is no control. -/
inductive ControlError
  /-- The line has none of the known forms. -/
  | unknown (line : String)
  /-- A file is to be opened but none is named. -/
  | missingFile
deriving DecidableEq, Repr

/-- What the user is told about a line that is no control. -/
def ControlError.message : ControlError → String
  | .unknown line =>
      "unknown control '" ++ line ++ "' (try /pattern, o <file>, e, f, s, r, q)"
  | .missingFile => "'o' needs a file name"

namespace Control

/-- The characters that end a line of input. -/
def isLineEnd (c : Char) : Bool := c = '\r' || c = '\n'

/-- Opens the named file; the part after the last space is the amount if it reads as one. -/
def readOpen (args : List Char) (standard : Amount) : Except ControlError Control :=
  let (file, amount) :=
    match Text.splitLast ' ' args with
    | some (file, amount) =>
        match Amount.read amount with
        | .ok amount => (Text.trimChars file, amount)
        | .error _ => (args, standard)
    | none => (args, standard)
  if file.isEmpty then .error .missingFile else .ok (.openFile (String.ofList file) amount)

/-- Reads a line that is no pattern and has no blanks around it. -/
def readPlain (cs : List Char) (standard : Amount) : Except ControlError (Option Control) :=
  match String.ofList cs with
  | "" => .ok none
  | "e" => .ok (some .toggleErrorFocus)
  | "f" => .ok (some .toggleFollow)
  | "s" => .ok (some .stop)
  | "r" => .ok (some .reload)
  | "q" => .ok (some .quit)
  | line =>
      match cs with
      | 'o' :: ' ' :: args => (readOpen (Text.trimChars args) standard).map some
      | _ => .error (.unknown line)

/-- Reads a line of input; a blank line asks for nothing.  Files are opened with the standard
amount if none is given. -/
def read (line : List Char) (standard : Amount) : Except ControlError (Option Control) :=
  match Text.stripEndWhere isLineEnd line with
  | '/' :: pattern => .ok (some (.filter (String.ofList pattern)))
  | cs => readPlain (Text.trimChars cs) standard

/-- Reads a line of input; a blank line asks for nothing. -/
def parse (line : String) (standard : Amount) : Except ControlError (Option Control) :=
  read line.toList standard

end Control
end TailView
