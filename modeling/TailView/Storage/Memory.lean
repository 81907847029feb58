import TailView.Storage.Disk
import TailView.Storage.Host
import TailView.Text.Utf8

/-!
# A host in memory

All that a run reads is given beforehand, and all that it prints is kept.
-/

namespace TailView

/-- A computer in memory. -/
structure Memory where
  disk : Disk := {}
  /-- The variables of the environment. -/
  environment : List (String × String) := []
  /-- The home directory. -/
  home : Option String := none
  /-- The working directory, as a place. -/
  working : List String := []
  /-- The text to read from. -/
  input : String := ""
  /-- The lines that were printed, the latest first. -/
  output : List String := []
  /-- The lines of diagnostics that were printed, the latest first. -/
  errors : List String := []

namespace Memory

/-- The path of a place. -/
def pathOf (place : List String) : String := "/" ++ "/".intercalate place

/-- Changes the disk if that can be done. -/
def change (memory : Memory) (disk : Option Disk) : Bool × Memory :=
  match disk with
  | some disk => (true, { memory with disk })
  | none => (false, memory)

/-- The lines of a text; a line break at the end ends the last line. -/
def linesOf (text : String) : List String :=
  let lines := Text.lines text
  if lines.getLast? = some "" then lines.dropLast else lines

/-- Hands lines to a step, one after the other, until a step gives no state for the next one. -/
def feed {σ : Type} (step : σ → String → StateM Memory (Option σ)) :
    List String → σ → StateM Memory Unit
  | [], _ => pure ()
  | line :: rest, state => do
      match ← step state line with
      | some state => feed step rest state
      | none => pure ()

/-- Printed lines as one text. -/
def transcript (lines : List String) : String := String.join (lines.reverse.map (· ++ "\n"))

instance : Host (StateM Memory) where
  environment? name := do return (← get).environment.lookup name
  home? := do return (← get).home
  workingDirectory := do return pathOf (← get).working
  hasPath path := do
    let memory ← get
    return memory.disk.hasPath memory.working path
  contents? path := do
    let memory ← get
    return memory.disk.contents? memory.working path
  makeDirectories path := modifyGet fun memory =>
    memory.change (memory.disk.makeDirectories memory.working path)
  write path text := modifyGet fun memory =>
    memory.change (memory.disk.changeFile memory.working path fun _ => Text.Utf8.encodeString text)
  openForAppend path := modifyGet fun memory =>
    memory.change (memory.disk.changeFile memory.working path fun old => old.getD [])
  eachLine start step := do feed step (linesOf (← get).input) start
  print line := modify fun memory => { memory with output := line :: memory.output }
  printError line := modify fun memory => { memory with errors := line :: memory.errors }

end Memory
end TailView
