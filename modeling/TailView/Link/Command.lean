import TailView.Amount
import TailView.Text.Split

/-!
# Commands to the server

A command asks for the end of one log file: `tail:0.5mb:app.log` once, `follow:0.5mb:app.log` with
everything that is appended later.  The file name is what stands after the second colon, verbatim.
-/

namespace TailView

namespace Command

/-- Whether appended text is wanted too. -/
inductive Mode
  | tail
  | follow
deriving DecidableEq, Repr

namespace Mode

/-- The word that starts a command of this mode. -/
def name : Mode → String
  | .tail => "tail"
  | .follow => "follow"

/-- The mode that a word stands for. -/
def ofName? : String → Option Mode
  | "tail" => some .tail
  | "follow" => some .follow
  | _ => none

/-- The mode for a wish to follow or not. -/
def ofFollow (follow : Bool) : Mode := if follow then .follow else .tail

/-- The other mode. -/
def other : Mode → Mode
  | .tail => .follow
  | .follow => .tail

end Mode

end Command

/-- A request for the end of one log file. -/
structure Command where
  /-- Whether appended text is wanted too. -/
  mode : Command.Mode
  /-- How much of the file is wanted. -/
  amount : Amount
  /-- The name of the file. -/
  file : String
deriving DecidableEq

/-- Why a text is no command. -/
inductive CommandError
  /-- There is no colon at all. -/
  | missingColon (text : String)
  /-- The word before the first colon is no mode. -/
  | unknownMode (word : String)
  /-- There is no second colon. -/
  | missingFile (text : String)
  /-- Nothing follows the second colon. -/
  | emptyFile (text : String)
  /-- What stands between the colons is no amount. -/
  | badAmount (error : AmountError)
deriving DecidableEq, Repr

/-- What the user is told about a text that is no command. -/
def CommandError.message : CommandError → String
  | .missingColon text => "command '" ++ text ++ "' is missing ':'"
  | .unknownMode word => "unknown command '" ++ word ++ "'"
  | .missingFile text => "command '" ++ text ++ "' is missing the file"
  | .emptyFile text => "command '" ++ text ++ "' names no file"
  | .badAmount error => error.message

namespace Command

/-- The message that sends a command to the server. -/
def wire (command : Command) : String :=
  command.mode.name ++ ":" ++ command.amount.text ++ ":" ++ command.file

/-- Reads a message as a command. -/
def read (cs : List Char) : Except CommandError Command :=
  match Text.splitFirst ':' cs with
  | none => .error (.missingColon (String.ofList cs))
  | some (word, rest) =>
      match Mode.ofName? (String.ofList word) with
      | none => .error (.unknownMode (String.ofList word))
      | some mode =>
          match Text.splitFirst ':' rest with
          | none => .error (.missingFile (String.ofList cs))
          | some (amount, file) =>
              if file.isEmpty then .error (.emptyFile (String.ofList cs))
              else
                match Amount.read amount with
                | .error error => .error (.badAmount error)
                | .ok amount => .ok ⟨mode, amount, String.ofList file⟩

/-- Reads a message as a command. -/
def parse (s : String) : Except CommandError Command := read s.toList

/-- The message that ends the current stream. -/
def stopMessage : String := "stop"

/-- The message that keeps the connection alive. -/
def pingMessage : String := "ping"

/-- The server's answer to a message that keeps the connection alive. -/
def pongMessage : String := "pong"

end Command
end TailView
