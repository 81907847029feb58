import TailView.CommandLine.Invocation
import TailView.Config.Edit
import TailView.Config.Template
import TailView.Session.Offline
import TailView.Storage.Host
import TailView.Storage.Path
import TailView.Text.Utf8

/-!
# Running a command

Each command reads the configuration, does its work on the host and prints what it found.  A command
that fails says why, and what it printed before stays printed.
-/

namespace TailView
namespace CommandLine

open Text

/-- Why a command fails. -/
inductive RunError
  /-- There is no home directory. -/
  | noHome
  /-- There is a configuration already. -/
  | configExists (path : String)
  /-- The directory of the configuration cannot be made. -/
  | configDirectory
  /-- The configuration cannot be written. -/
  | configWrite
  /-- A setting cannot be changed. -/
  | edit (error : Config.EditError)
  /-- The directory for diagnostics cannot be made. -/
  | logDirectory (path : String)
  /-- The file for diagnostics cannot be opened. -/
  | logFile (path : String)
  /-- The file to replay cannot be read. -/
  | unreadable (path : String)
deriving DecidableEq, Repr

/-- What the user is told about a command that fails. -/
def RunError.message : RunError → String
  | .noHome => "could not determine home directory"
  | .configExists path =>
      "config file already exists at " ++ path ++ ". Use --force to overwrite."
  | .configDirectory => "failed to create config directory"
  | .configWrite => "failed to write config file"
  | .edit error => error.message
  | .logDirectory path => "failed to create log directory " ++ path
  | .logFile path => "failed to open log file " ++ path
  | .unreadable path => "failed to read " ++ path

/-- A run on a host, which may fail. -/
abbrev Run (m : Type → Type) (α : Type) := ExceptT RunError m α

variable {m : Type → Type} [Host m]

/-- Fails unless something could be done. -/
def require (done : Bool) (error : RunError) : Run m Unit :=
  if done then pure () else throw error

/-- The path of the user's configuration below the home directory. -/
def configPathIn (home : String) : String := Path.join (Path.join home ".logtail") "config.toml"

/-- The path of the user's configuration, if there is a home directory. -/
def configPath? : m (Option String) := do return (← Host.home?).map configPathIn

/-- The path of the user's configuration. -/
def configPath : Run m String := do
  match ← configPath? (m := m) with
  | some path => return path
  | none => throw .noHome

/-- The path of the project's configuration. -/
def projectPath : m String := do return Path.join (← Host.workingDirectory) ".logtail.toml"

/-- The bytes of a file, if there is a path and a file at it. -/
def bytesAt (path : Option String) : m (Option (List UInt8)) :=
  match path with
  | none => pure none
  | some path => Host.contents? path

/-- The variables that the configuration depends on. -/
def configVariables : List String :=
  ["LOGTAIL_URL", "LOGTAIL_FILE", "LOGTAIL_AMOUNT", "LOGTAIL_FOLLOW", "LOGTAIL_CLASSIFIER",
    "LOGTAIL_LOG"]

/-- The values of some variables. -/
def environmentOf : List String → m Config.Environment
  | [] => pure fun _ => none
  | name :: rest => do
      let value ← Host.environment? name
      let others ← environmentOf rest
      return fun other => if other = name then value else others other

/-- The configuration of the files and the environment of the host. -/
def loadConfig : m Config := do
  let user ← bytesAt (← configPath?)
  let project ← bytesAt (some (← projectPath))
  return Config.load (user.toList ++ project.toList) (← environmentOf configVariables)

/-- Whether colours may be used: they are wanted by the environment, and not refused by the
configuration. -/
def colorsOf (wanted : Bool) (config : Config) : Bool := wanted && config.display.colors

/-- Makes the file for diagnostics ready. -/
def openLog (config : Config) : Run m Unit := do
  let path := Path.expandHome (← Host.home? (m := m)) config.log.file
  match Path.parent? path with
  | some parent => require (← Host.makeDirectories (m := m) parent) (.logDirectory parent)
  | none => pure ()
  require (← Host.openForAppend (m := m) path) (.logFile path)

/-- Makes a place for diagnostics ready: a file, unless they are to be printed. -/
def startLog (options : RunOptions) (config : Config) : Run m Unit :=
  if options.verbose then pure () else openLog config

/-- Prints lines. -/
def printAll (lines : List String) : m Unit := lines.forM Host.print

/-- The line about a filter that was refused. -/
def filterWarning (colors : Bool) (rejection : Filter.Rejection) : String :=
  Style.paint { bold := true, color := some .yellow } colors "warning:" ++ " " ++ rejection.message

/-- The session with the filter and the view that the options ask for. -/
def primed (options : RunOptions) (session : Session) : Session :=
  let session := match options.filter with
    | some text => session.setFilter text
    | none => session
  if options.errorsOnly then session.toggleErrorFocus else session

/-- Prints a warning if the filter that the options ask for is refused. -/
def warnAboutFilter (colors : Bool) (options : RunOptions) (session : Session) : m Unit :=
  match options.filter, session.filter.rejection with
  | some _, some rejection => Host.printError (filterWarning colors rejection)
  | _, _ => pure ()

/-- Shows a local file as if it came from the server. -/
def replay (wanted : Bool) (path : String) (chunkSize : Nat) (format : Display.Format)
    (options : RunOptions) : Run m Unit := do
  let config := (← loadConfig (m := m)).withOverrides options.overrides
  let colors := colorsOf wanted config
  startLog options config
  match ← Host.contents? (m := m) path with
  | none => throw (.unreadable path)
  | some bytes => do
      let operations := Session.replayOperations path config.amount bytes chunkSize
      let session := primed options ((Session.ofOptions config.sessionOptions).run operations)
      warnAboutFilter (m := m) colors options session
      printAll (m := m) (Display.snapshot ⟨format, config.display.correlation, colors⟩ session)

/-- The note for a user who has not named a file. -/
def noFileNote : String := "No file selected. Type \x60o <file> [amount]\x60 to open one."

/-- A session and the terminal that it is shown on. -/
structure Viewer where
  session : Session
  terminal : Display.Terminal

/-- Prints what is new at a moment. -/
def showMoment (terminal : Display.Terminal) (moment : Session.Moment) : m Viewer := do
  let (terminal, lines) := terminal.render moment.session moment.updates
  printAll lines
  return ⟨moment.session, terminal⟩

/-- Does what a line of input asks for; there is no viewer any more when the user has left. -/
def serveLine (standard : Amount) (viewer : Viewer) (line : String) : m (Option Viewer) := do
  match Control.parse line standard with
  | .error error => do
      Host.printError error.message
      return some viewer
  | .ok none => return some viewer
  | .ok (some .quit) => return none
  | .ok (some control) =>
      return some (← showMoment viewer.terminal (viewer.session.serveOne control 0))

/-- Shows a session whose server cannot be reached, and serves the user until they leave. -/
def serveOffline (standard : Amount) (terminal : Display.Terminal) (session : Session) :
    m Unit := do
  let (dialling, failed) := session.failToConnect Session.unsupportedAddress
  let viewer ← showMoment terminal dialling
  let viewer ← showMoment viewer.terminal failed
  Host.eachLine viewer (serveLine standard)

/-- Watches a file on the server.  A run has no means to reach a server, so the attempt to connect
fails, and the user is served without it. -/
def watch (wanted : Bool) (options : RunOptions) : Run m Unit := do
  let config := (← loadConfig (m := m)).withOverrides options.overrides
  let colors := colorsOf wanted config
  startLog options config
  let session := primed options (Session.ofOptions config.sessionOptions)
  warnAboutFilter (m := m) colors options session
  let terminal : Display.Terminal := { look := ⟨.text, config.display.correlation, colors⟩ }
  if config.tail.file.isEmpty then
    Host.print (m := m) (Style.paint { dimmed := true } colors noFileNote)
    serveOffline (m := m) config.amount terminal session
  else
    serveOffline (m := m) config.amount terminal
      (session.openFile config.tail.file config.amount)

/-- The line about a file that the configuration may come from. -/
def sourceLine (colors : Bool) (name : String) (found : Bool) : String :=
  let faint := Style.paint { dimmed := true } colors
  if found then "  " ++ Style.paint (.colored .green) colors "✓" ++ " " ++ faint name
  else "  " ++ faint "·" ++ " " ++ faint (name ++ " (not found)")

/-- The lines about where the configuration may come from. -/
def sourceLines (colors user project : Bool) : List String :=
  let faint := Style.paint { dimmed := true } colors
  [ faint "Sources (highest priority last):",
    "  " ++ faint "·" ++ " built-in defaults",
    sourceLine colors "~/.logtail/config.toml" user,
    sourceLine colors ".logtail.toml" project,
    "  " ++ faint "·" ++ " " ++ faint "LOGTAIL_* environment variables",
    "  " ++ faint "·" ++ " " ++ faint "command-line flags" ]

/-- Shows the configuration and where it may come from. -/
def showConfig (colors : Bool) : Run m Unit := do
  let config ← loadConfig (m := m)
  let user ← match ← configPath? (m := m) with
    | some path => Host.hasPath (m := m) path
    | none => pure false
  let project ← Host.hasPath (m := m) (← projectPath (m := m))
  printAll (m := m) ([
    Style.paint { bold := true, color := some .cyan } colors "Effective logtail Configuration",
    String.ofList (List.replicate 50 '='), "", config.text] ++ sourceLines colors user project)

/-- Puts a text into the file of the configuration. -/
def writeConfig (path text : String) : Run m Unit := do
  match Path.parent? path with
  | some parent => require (← Host.makeDirectories (m := m) parent) .configDirectory
  | none => pure ()
  require (← Host.write (m := m) path text) .configWrite

/-- Writes the annotated configuration, over an old one only if that is wanted. -/
def initConfigAt (path : String) (force : Bool) : Run m Unit := do
  if (← Host.hasPath (m := m) path) && !force then throw (.configExists path)
  writeConfig path Config.template

/-- The mark in front of a message about something done. -/
def doneMark (colors : Bool) : String :=
  Style.paint { bold := true, color := some .green } colors "✓"

/-- Writes the annotated configuration for the user. -/
def initConfig (colors force : Bool) : Run m Unit := do
  let path ← configPath
  initConfigAt path force
  printAll (m := m) [
    doneMark colors ++ " Config written to " ++ path,
    "  " ++ Style.paint { dimmed := true } colors "Edit the file to customize logtail."]

/-- Changes a setting in the file at a path. -/
def setConfigAt (path key value : String) : Run m Unit := do
  let file ←
    if ← Host.hasPath (m := m) path then
      match ← Host.contents? (m := m) path with
      | some bytes => pure (some bytes)
      | none => throw (.edit .unreadable)
    else pure none
  match Config.editFile file key value with
  | .ok text => writeConfig path text
  | .error error => throw (.edit error)

/-- Changes a setting for the user. -/
def setConfig (colors : Bool) (key value : String) : Run m Unit := do
  let path ← configPath
  setConfigAt path key value
  Host.print (m := m)
    (doneMark colors ++ " Set " ++ Style.paint { bold := true } colors key ++ " = " ++ value)

/-- Writes the annotated configuration over the old one. -/
def resetConfig (colors : Bool) : Run m Unit := do
  let path ← configPath
  initConfigAt path true
  Host.print (m := m) (doneMark colors ++ " Config reset to defaults at " ++ path)

/-- Does what a command line asks for. -/
def run (colors : Bool) : Invocation → Run m Unit
  | .watch options => watch colors options
  | .replay path chunkSize format options => replay colors path chunkSize format options
  | .showConfig => showConfig colors
  | .initConfig force => initConfig colors force
  | .setConfig key value => setConfig colors key value
  | .resetConfig => resetConfig colors

/-- Whether the environment wants colours. -/
def wantsColors : m Bool := do
  match ← Host.environment? "CLICOLOR_FORCE" with
  | some value => return value ≠ "0"
  | none => return false

/-- How a run ends. -/
inductive Outcome
  /-- The command line is not understood. -/
  | usage (error : UsageError)
  /-- The command failed. -/
  | failed (error : RunError)
  /-- The command did its work. -/
  | done
deriving DecidableEq, Repr

/-- The exit code of an outcome. -/
def Outcome.code : Outcome → Nat
  | .usage .helpWanted => 0
  | .usage _ => 2
  | .failed _ => 1
  | .done => 0

/-- Reads a command line and does what it asks for. -/
def execute (words : List String) : m Outcome := do
  match Invocation.read words with
  | .error error => return .usage error
  | .ok invocation =>
      match ← (run (← wantsColors) invocation).run with
      | .ok () => return .done
      | .error error => return .failed error

end CommandLine
end TailView
