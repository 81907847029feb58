import TailView.Text.Split

/-!
# Words of a command line

After the name of a command stand options and operands in any order.  An option is `--name`, or a
hyphen and its letter; letters can stand together.  The value of an option is the next word, or
follows an equals sign.  A word with a hyphen at its front is never taken for a value or an operand,
except for a lone hyphen; after a lone `--` every word is an operand.
-/

namespace TailView
namespace CommandLine

/-- Why a command line is not understood. -/
inductive UsageError
  /-- The user asks how the program is used. -/
  | helpWanted
  /-- No command is named. -/
  | missingCommand
  /-- There is no such command. -/
  | unknownCommand (name : String)
  /-- The command knows no such option. -/
  | unknownOption (word : String)
  /-- An option is given twice. -/
  | repeatedOption (name : String)
  /-- An option that takes no value is given one. -/
  | unexpectedValue (name : String)
  /-- An option lacks its value. -/
  | missingValue (name : String)
  /-- A value is not accepted. -/
  | invalidValue (name value : String)
  /-- There is one operand too many. -/
  | unexpectedOperand (word : String)
  /-- An operand is not given. -/
  | missingOperand (name : String)
deriving DecidableEq, Repr

/-- What the user is told about a command line that is not understood. -/
def UsageError.message : UsageError → String
  | .helpWanted => "help requested"
  | .missingCommand => "no command is given"
  | .unknownCommand name => "unknown command '" ++ name ++ "'"
  | .unknownOption word => "unknown option '" ++ word ++ "'"
  | .repeatedOption name => "option '--" ++ name ++ "' is given twice"
  | .unexpectedValue name => "option '--" ++ name ++ "' takes no value"
  | .missingValue name => "option '--" ++ name ++ "' needs a value"
  | .invalidValue name value => "invalid value '" ++ value ++ "' for '" ++ name ++ "'"
  | .unexpectedOperand word => "unexpected argument '" ++ word ++ "'"
  | .missingOperand name => "'" ++ name ++ "' is missing"

/-- An option that a command knows. -/
structure OptionRule where
  /-- The name, without the hyphens. -/
  name : String
  /-- Which values it takes; none if it takes no value. -/
  takes : Option (String → Bool) := none
  /-- The letter, if there is one; an option with a letter takes no value. -/
  letter : Option Char := none
  /-- The option that it replaces. -/
  rival : Option String := none

/-- An operand that a command needs. -/
structure OperandRule where
  /-- What it is called. -/
  name : String
  /-- Which words it can be. -/
  accepts : String → Bool := fun _ => true

/-- The options and operands of a command. -/
structure CommandRule where
  options : List OptionRule := []
  operands : List OperandRule := []

/-- What stands on a command line. -/
structure Given where
  /-- The options, each with its value if it takes one. -/
  options : List (String × Option String) := []
  /-- The operands in order. -/
  operands : List String := []
deriving DecidableEq, Repr

namespace Given

/-- Whether an option is given. -/
def has (given : Given) (name : String) : Bool := given.options.any fun entry => entry.1 = name

/-- The value of an option, if it is given. -/
def value? (given : Given) (name : String) : Option String :=
  ((given.options.find? fun entry => entry.1 = name).map (·.2)).join

/-- One more option, which replaces its rival. -/
def addOption (given : Given) (rule : OptionRule) (value : Option String) :
    Except UsageError Given :=
  if given.has rule.name then .error (.repeatedOption rule.name)
  else
    let others := given.options.filter fun entry => some entry.1 ≠ rule.rival
    .ok { given with options := others ++ [(rule.name, value)] }

/-- One more option with a value. -/
def addValue (given : Given) (rule : OptionRule) (takes : String → Bool) (value : String) :
    Except UsageError Given :=
  if takes value then given.addOption rule (some value)
  else .error (.invalidValue rule.name value)

/-- One more operand. -/
def addOperand (given : Given) (command : CommandRule) (word : String) :
    Except UsageError Given :=
  match command.operands[given.operands.length]? with
  | none => .error (.unexpectedOperand word)
  | some operand =>
      if operand.accepts word then .ok { given with operands := given.operands ++ [word] }
      else .error (.invalidValue operand.name word)

/-- The options of letters that stand together. -/
def addLetters (command : CommandRule) (given : Given) : List Char → Except UsageError Given
  | [] => .ok given
  | letter :: rest =>
      if letter = 'h' then .error .helpWanted
      else
        match command.options.find? fun rule => rule.letter = some letter with
        | none => .error (.unknownOption (String.ofList ['-', letter]))
        | some rule => do addLetters command (← given.addOption rule none) rest

/-- The operands after the last option. -/
def addOperands (command : CommandRule) (given : Given) (words : List String) :
    Except UsageError Given :=
  words.foldlM (fun given word => given.addOperand command word) given

/-- Whether a word can be neither a value nor an operand. -/
def looksLikeOption (word : String) : Bool := word ≠ "-" ∧ word.toList.head? = some '-'

/-- The name of an option, and the value after the equals sign if there is one. -/
def splitOption (cs : List Char) : String × Option String :=
  match Text.splitFirst '=' cs with
  | some (name, value) => (String.ofList name, some (String.ofList value))
  | none => (String.ofList cs, none)

/-- Reads the words after the name of a command. -/
def read (command : CommandRule) (given : Given) : List String → Except UsageError Given
  | [] => .ok given
  | word :: rest =>
      match word.toList with
      | ['-', '-'] => given.addOperands command rest
      | '-' :: '-' :: option =>
          let (name, attached) := splitOption option
          if name = "help" ∧ attached = none then .error .helpWanted
          else
            match command.options.find? fun rule => rule.name = name with
            | none => .error (.unknownOption word)
            | some rule =>
                match rule.takes, attached with
                | none, none => do read command (← given.addOption rule none) rest
                | none, some _ => .error (.unexpectedValue name)
                | some takes, some value => do read command (← given.addValue rule takes value) rest
                | some takes, none =>
                    match rest with
                    | [] => .error (.missingValue name)
                    | value :: rest =>
                        if looksLikeOption value then .error (.missingValue name)
                        else do read command (← given.addValue rule takes value) rest
      | '-' :: letter :: letters => do
          read command (← addLetters command given (letter :: letters)) rest
      | _ => do read command (← given.addOperand command word) rest

end Given

/-- Reads the words after the name of a command; all operands must be given. -/
def CommandRule.read (command : CommandRule) (words : List String) : Except UsageError Given := do
  let given ← Given.read command {} words
  match command.operands[given.operands.length]? with
  | some operand => throw (.missingOperand operand.name)
  | none => return given

end CommandLine
end TailView
