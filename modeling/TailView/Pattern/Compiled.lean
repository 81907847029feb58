import TailView.Pattern.Captures
import TailView.Pattern.Lowering
import TailView.Pattern.Matcher
import TailView.Pattern.Parser

/-!
# Compiled patterns

A pattern is compiled once and then searched for in many texts.  A text is searched for literally by
the pattern in which no character of it has a meaning of its own.
-/

namespace TailView
namespace Pattern

/-- A text with a backslash before each character that has a meaning of its own in patterns. -/
def escape (cs : List Char) : List Char :=
  cs.flatMap fun c => if Cursor.isMeta c then ['\\', c] else [c]

/-- A pattern that is ready to be searched for. -/
structure Compiled where
  /-- What the pattern means. -/
  expr : Expr
  /-- The pattern without marks. -/
  start : Marked

namespace Compiled

/-- Compiles an expression, unless its automaton is too large. -/
def ofExpr (expr : Expr) : Except Fault Compiled :=
  if Expr.maxWeight < expr.weight then .error .tooLarge else .ok ⟨expr, Marked.ofExpr expr⟩

/-- Compiles a tree under the given flags. -/
def ofTree (flags : Flags) (tree : Tree) : Except Fault Compiled := do
  let (expr, _) ← flags.lower tree
  ofExpr expr

/-- Compiles a pattern. -/
def ofPattern (caseless : Bool) (text : String) : Except Fault Compiled := do
  ofTree { caseless } (← Parser.read text.toList)

/-- Compiles the pattern that matches a text literally. -/
def ofLiteral (caseless : Bool) (text : String) : Except Fault Compiled :=
  ofPattern caseless (String.ofList (escape text.toList))

/-- Whether the pattern matches somewhere in a text. -/
def isMatch (compiled : Compiled) (text : String) : Bool :=
  compiled.start.search none text.toList

/-- What the groups of the pattern match in a text, if the pattern is found. -/
def captures? (compiled : Compiled) (text : List Char) : Option Captures :=
  (compiled.expr.firstMatch? none 0 text).map fun last => ⟨text, last.groups⟩

end Compiled
end Pattern
end TailView
