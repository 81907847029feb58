import TailView.CommandLine.Words
import TailView.Config.Layers
import TailView.Display.Terminal
import TailView.Number.Integer

/-!
# Invocations

What the words of a command line ask for: to watch a file on the server, to show a local file as if
it came from there, or to look at the configuration or change it.
-/

namespace TailView
namespace CommandLine

/-- The options that watching and replaying share. -/
structure RunOptions where
  /-- The settings for this run. -/
  overrides : Config.Overrides := {}
  /-- The filter to start with. -/
  filter : Option String := none
  /-- Whether to start with the view of errors. -/
  errorsOnly : Bool := false
  /-- Whether diagnostics are printed and not kept in a file. -/
  verbose : Bool := false
deriving DecidableEq

/-- What a command line asks for. -/
inductive Invocation
  /-- Watch a file on the server. -/
  | watch (options : RunOptions)
  /-- Show a local file as if it came from the server in chunks. -/
  | replay (path : String) (chunkSize : Nat) (format : Display.Format) (options : RunOptions)
  /-- Show the configuration. -/
  | showConfig
  /-- Write the annotated configuration, over an old one only if that is wanted. -/
  | initConfig (force : Bool)
  /-- Change a setting. -/
  | setConfig (key value : String)
  /-- Write the annotated configuration over the old one. -/
  | resetConfig
deriving DecidableEq

/-- The first chunk size that does not fit into 64 bits. -/
def chunkSizeLimit : Nat := UInt64.size

/-- The chunk size if none is given. -/
def standardChunkSize : Nat := 4096

/-- Every value is accepted. -/
def anyValue (_ : String) : Bool := true

/-- The options that watching and replaying share. -/
def sharedOptions : List OptionRule := [
  { name := "amount", takes := some fun text => (Amount.parse text).toOption.isSome },
  { name := "filter", takes := some anyValue },
  { name := "errors-only" },
  { name := "verbose", letter := some 'v' }]

/-- The words of `watch`. -/
def watchRule : CommandRule where
  options := [
    { name := "url", takes := some anyValue },
    { name := "file", takes := some anyValue },
    { name := "follow", rival := some "no-follow" },
    { name := "no-follow", rival := some "follow" }] ++ sharedOptions

/-- The words of `replay`. -/
def replayRule : CommandRule where
  options := [
    { name := "chunk-size"
      takes := some fun text => (Number.parseBelow? chunkSizeLimit text).isSome },
    { name := "format", takes := some anyValue }] ++ sharedOptions
  operands := [{ name := "path", accepts := fun word => !word.isEmpty }]

/-- The words of `config init`. -/
def initRule : CommandRule where
  options := [{ name := "force" }]

/-- The words of `config set`. -/
def setRule : CommandRule where
  operands := [{ name := "key" }, { name := "value" }]

/-- Whether appended text is wanted, if that is said. -/
def Given.follow? (given : Given) : Option Bool :=
  if given.has "follow" then some true else if given.has "no-follow" then some false else none

/-- The options that watching and replaying share. -/
def Given.runOptions (given : Given) : RunOptions where
  overrides := {
    url := given.value? "url"
    file := given.value? "file"
    amount := (given.value? "amount").bind fun text => (Amount.parse text).toOption
    follow := given.follow? }
  filter := given.value? "filter"
  errorsOnly := given.has "errors-only"
  verbose := given.has "verbose"

/-- What the words of `replay` ask for. -/
def Given.replay (given : Given) : Invocation :=
  .replay (given.operands.headD "")
    (((given.value? "chunk-size").bind (Number.parseBelow? chunkSizeLimit)).getD standardChunkSize)
    (Display.Format.ofName (given.value? "format")) given.runOptions

/-- Whether a word asks for help. -/
def asksForHelp (word : String) : Bool :=
  word = "--help" || word = "help" || ['-', 'h'].isPrefixOf word.toList

/-- What is wrong with a word in the place of a command. -/
def notACommand (word : String) : UsageError :=
  if asksForHelp word then .helpWanted
  else if Given.looksLikeOption word then .unknownOption word
  else .unknownCommand word

/-- What the words after `config` ask for. -/
def Invocation.readConfig : List String → Except UsageError Invocation
  | [] => .error .missingCommand
  | "show" :: words => do
      let _ ← CommandRule.read {} words
      return .showConfig
  | "init" :: words => do
      let given ← initRule.read words
      return .initConfig (given.has "force")
  | "set" :: words => do
      let given ← setRule.read words
      return .setConfig (given.operands.headD "") (given.operands.getLastD "")
  | "reset" :: words => do
      let _ ← CommandRule.read {} words
      return .resetConfig
  | word :: _ => .error (notACommand word)

/-- What a command line asks for. -/
def Invocation.read : List String → Except UsageError Invocation
  | [] => .error .missingCommand
  | "watch" :: words => do return .watch (← watchRule.read words).runOptions
  | "replay" :: words => do return (← replayRule.read words).replay
  | "config" :: words => readConfig words
  | word :: _ => .error (notACommand word)

end CommandLine
end TailView
