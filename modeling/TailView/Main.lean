import TailView.CommandLine.Run

/-!
# The program

The host of the program is the computer it runs on.
-/

namespace TailView

/-- Whether an action succeeds. -/
def succeeds (action : IO Unit) : IO Bool := do
  try
    action
    return true
  catch _ => return false

/-- Hands the lines of standard input to a step, one after the other, until a step gives no state for
the next one. -/
partial def eachInputLine {σ : Type} (state : σ) (step : σ → String → IO (Option σ)) : IO Unit := do
  let line ← (← IO.getStdin).getLine
  if line.isEmpty then return
  match ← step state line with
  | some state => eachInputLine state step
  | none => return

instance : Host IO where
  environment? name := IO.getEnv name
  home? := do return (← IO.getEnv "HOME").filter (· ≠ "")
  workingDirectory := do return (← IO.currentDir).toString
  hasPath path := succeeds do let _ ← IO.FS.realPath path
  contents? path := do
    try return some (← IO.FS.readBinFile path).toList
    catch _ => return none
  makeDirectories path := if path.isEmpty then return true else succeeds (IO.FS.createDirAll path)
  write path text := succeeds (IO.FS.writeFile path text)
  openForAppend path := succeeds do let _ ← IO.FS.Handle.mk path .append
  eachLine state step := eachInputLine state step
  print line := IO.println line
  printError line := IO.eprintln line

/-- How the program is called. -/
def usageText : String :=
  "usage: logtail watch [--url URL] [--file FILE] [--follow | --no-follow] [OPTIONS]\n" ++
  "       logtail replay PATH [--chunk-size N] [--format text|json] [OPTIONS]\n" ++
  "       logtail config show | init [--force] | set KEY VALUE | reset\n" ++
  "options: --amount AMOUNT, --filter PATTERN, --errors-only, -v | --verbose"

end TailView

open TailView CommandLine in
/-- Does what the command line asks for. -/
def main (words : List String) : IO UInt32 := do
  let outcome : Outcome ← execute words
  match outcome with
  | .usage .helpWanted => IO.println usageText
  | .usage error => IO.eprintln ("error: " ++ error.message ++ "\n\n" ++ usageText)
  | .failed error => IO.eprintln ("Error: " ++ error.message)
  | .done => pure ()
  return outcome.code.toUInt32
