/-!
# The host of a run

What a run needs of the computer it runs on: files and directories, variables of the environment,
and somewhere to read from and to print to.  A run is written for any host, so what it does can be
studied on a host in memory.
-/

namespace TailView

/-- A monad with the means that a run needs.  What cannot be done is answered by `none` or
`false`. -/
class Host (m : Type → Type) extends Monad m where
  /-- The value of a variable of the environment. -/
  environment? : String → m (Option String)
  /-- The home directory. -/
  home? : m (Option String)
  /-- The working directory. -/
  workingDirectory : m String
  /-- Whether there is something at a path. -/
  hasPath : String → m Bool
  /-- The bytes of the file at a path. -/
  contents? : String → m (Option (List UInt8))
  /-- Makes the directories on the way to a path and the one at its end. -/
  makeDirectories : String → m Bool
  /-- Makes a file hold a text and nothing else. -/
  write : String → String → m Bool
  /-- Makes a file ready for lines to be added at its end. -/
  openForAppend : String → m Bool
  /-- Hands the lines of input to a step, one after the other, until a step gives no state for the
  next one. -/
  eachLine : {σ : Type} → σ → (σ → String → m (Option σ)) → m Unit
  /-- Prints a line. -/
  print : String → m Unit
  /-- Prints a line of diagnostics. -/
  printError : String → m Unit

end TailView
