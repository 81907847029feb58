import TailView.Storage.Path

/-!
# Directories and files in memory

A disk holds what lies at places in a tree of directories; the root is always a directory.  A place
is the list of the names that lead to it from the root.  Paths are followed part by part, and only
from directories.
-/

namespace TailView

/-- What lies at a place. -/
inductive FileNode
  | directory
  | file (bytes : List UInt8)
deriving DecidableEq

/-- A tree of directories and files. -/
structure Disk where
  /-- The places other than the root that hold something. -/
  nodes : List (List String × FileNode) := []
deriving DecidableEq

namespace Disk

/-- What lies at a place. -/
def node? (disk : Disk) (place : List String) : Option FileNode :=
  if place.isEmpty then some .directory
  else (disk.nodes.find? fun node => node.1 = place).map (·.2)

/-- The disk with something put at a place. -/
def put (disk : Disk) (place : List String) (node : FileNode) : Disk :=
  ⟨(place, node) :: disk.nodes.filter fun other => other.1 ≠ place⟩

/-- The place that one part of a path leads to from a directory. -/
def step (place : List String) (part : String) : List String :=
  if part = "" ∨ part = "." then place
  else if part = ".." then place.dropLast
  else place ++ [part]

/-- The place at the end of some parts, if all but the last part lead to directories. -/
def follow? (disk : Disk) (place : List String) : List String → Option (List String)
  | [] => some place
  | part :: rest =>
      if disk.node? place = some .directory then follow? disk (step place part) rest else none

/-- Where a path starts: at the root, or in the working directory. -/
def startOf (working : List String) (path : String) : List String :=
  if Path.isAbsolute path then [] else working

/-- The place of a path, if it can be reached.  There is nothing at the empty path. -/
def place? (disk : Disk) (working : List String) (path : String) : Option (List String) :=
  if path.isEmpty then none else disk.follow? (startOf working path) (Path.parts path)

/-- Whether there is something at a path. -/
def hasPath (disk : Disk) (working : List String) (path : String) : Bool :=
  ((disk.place? working path).bind disk.node?).isSome

/-- The bytes of the file at a path. -/
def contents? (disk : Disk) (working : List String) (path : String) : Option (List UInt8) :=
  match (disk.place? working path).bind disk.node? with
  | some (.file bytes) => some bytes
  | _ => none

/-- The disk with a directory at the end of some parts, and with those on the way. -/
def makeDirectoriesFrom (disk : Disk) (place : List String) : List String → Option Disk
  | [] => some disk
  | part :: rest =>
      let place := step place part
      match disk.node? place with
      | some .directory => makeDirectoriesFrom disk place rest
      | some (.file _) => none
      | none => makeDirectoriesFrom (disk.put place .directory) place rest

/-- The disk with a directory at a path, and with those on the way. -/
def makeDirectories (disk : Disk) (working : List String) (path : String) : Option Disk :=
  disk.makeDirectoriesFrom (startOf working path) (Path.parts path)

/-- The disk with the file at a path changed, or made with the bytes that `change` gives for none. -/
def changeFile (disk : Disk) (working : List String) (path : String)
    (change : Option (List UInt8) → List UInt8) : Option Disk := do
  let place ← disk.place? working path
  if place.isEmpty ∨ disk.node? place.dropLast ≠ some .directory then none
  else
    match disk.node? place with
    | some .directory => none
    | some (.file bytes) => some (disk.put place (.file (change (some bytes))))
    | none => some (disk.put place (.file (change none)))

end Disk
end TailView
