import TailView.Text.Split

/-!
# Paths

A path is a text whose parts are divided by slashes.  Empty parts and single dots lead nowhere,
except for a dot at the front of a path that does not start at the root.
-/

namespace TailView
namespace Path

/-- Whether a path starts at the root. -/
def isAbsolute (path : String) : Bool := path.toList.head? = some '/'

/-- A path that is followed from the end of another one.  A path from the root stands for itself. -/
def join (base path : String) : String :=
  if isAbsolute path then path
  else if base.isEmpty || base.toList.getLast? = some '/' then base ++ path
  else base ++ "/" ++ path

/-- The parts of a path, without the slash at its front. -/
def parts (path : String) : List String :=
  let cs := path.toList
  (Text.pieces '/' (if isAbsolute path then cs.tail else cs)).map String.ofList

/-- Parts without the last ones that lead nowhere; `atRoot` says whether they start at the root. -/
def dropIdleEnd (atRoot : Bool) (parts : List String) : List String :=
  match parts.reverse.dropWhile fun part => part = "" || part = "." with
  | [] => if !atRoot && parts.head? = some "." then ["."] else []
  | kept => kept.reverse

/-- The path to the directory that the last part lies in, if there is a last part. -/
def parent? (path : String) : Option String :=
  let atRoot := isAbsolute path
  match dropIdleEnd atRoot (parts path) with
  | [] => none
  | kept =>
      some ((if atRoot then "/" else "") ++ "/".intercalate (dropIdleEnd atRoot kept.dropLast))

/-- A path that starts with `~/`, from the home directory on. -/
def expandHome (home : Option String) (path : String) : String :=
  match path.toList, home with
  | '~' :: '/' :: rest, some home => join home (String.ofList rest)
  | _, _ => path

end Path
end TailView
