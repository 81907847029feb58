import TailView.Toml.Scalar
import TailView.Toml.Tree

/-!
# Expressions of a document

A document is a sequence of expressions on lines of their own: a heading, or a key with its value.
Arrays may go over several lines and hold comments, inline tables stay on one line.  Arrays and
inline tables nest at most 79 deep, and a key has at most 79 parts.
-/

namespace TailView
namespace Toml

open Text Text.Reader

/-- What a line of a document says. -/
inductive Expression
  /-- A heading of a table. -/
  | heading (path : KeyPath)
  /-- A heading of the next table of an array. -/
  | element (path : KeyPath)
  /-- A key with its value. -/
  | assignment (path : KeyPath) (value : Value)

namespace Expression

/-- The levels below which nothing nests any more. -/
def maxDepth : Nat := 79

/-- Spaces and tabs. -/
def blanks : Reader Unit := do let _ ← span fun c => c = ' ' || c = '\t'

/-- A line break. -/
def lineBreak : Reader Unit := mark "\n" <|> mark "\r\n"

/-- A comment, up to the line break. -/
def comment : Reader Unit := do
  mark "#"
  let _ ← span fun c => !Quoted.isControl c

/-- Blanks, and perhaps a comment, up to the end of the line. -/
def lineEnd : Reader Unit := do
  blanks
  let _ ← maybe comment
  lineBreak <|> atEnd

/-- A line break, perhaps after a comment, with the blanks behind it. -/
def breakWithBlanks : Reader Unit := do
  let _ ← maybe comment
  lineBreak
  blanks

/-- Blanks, comments and line breaks. -/
def gap : Reader Unit := do
  blanks
  let _ ← many breakWithBlanks

/-- A part of a key. -/
def keyPart : Reader String := do
  blanks
  let part ← Quoted.readLine <|> (do
    let first ← char Quoted.isBare
    return String.ofList (first :: (← span Quoted.isBare)))
  blanks
  return part

/-- A key, whose parts are divided by points. -/
def key : Reader KeyPath := do
  let parts ← separated (mark ".") keyPart
  match parts.reverse with
  | last :: parents => if parts.length ≤ maxDepth then return ⟨parents.reverse, last⟩ else failure
  | [] => failure

/-- An item of an array. -/
def item (value : Reader Value) : Reader Value := do
  gap
  let value ← value
  gap
  return value

/-- An array. -/
def array (value : Reader Value) : Reader Value := do
  mark "["
  let items ← separated (mark ",") (item value)
  if !items.isEmpty then
    let _ ← maybe (mark ",")
  gap
  mark "]"
  return .array items

/-- A key with its value. -/
def pair (value : Reader Value) : Reader (KeyPath × Value) := do
  let path ← key
  mark "="
  blanks
  return (path, ← value)

/-- An inline table. -/
def inlineTable (value : Reader Value) : Reader Value := do
  mark "\x7b"
  let pairs ← separated (mark ",") (do
    let pair ← pair value
    blanks
    return pair)
  blanks
  mark "\x7d"
  match pairs.foldlM (fun entries (path, value) => Growth.assign path value entries) [] with
  | some entries => return .table (Growth.toTable entries)
  | none => failure

/-- A value whose arrays and inline tables nest at most so deep. -/
def valueWithin : Nat → Reader Value
  | 0 => Scalar.read
  | depth + 1 => do
      match ← peek with
      | some '[' => array (valueWithin depth)
      | some '\x7b' => inlineTable (valueWithin depth)
      | _ => Scalar.read

/-- A value. -/
def value : Reader Value := valueWithin maxDepth

/-- A heading. -/
def readHeading : Reader Expression := do
  mark "["
  match ← maybe (mark "[") with
  | some _ => do
      let path ← key
      mark "]]"
      return .element path
  | none => do
      let path ← key
      mark "]"
      return .heading path

/-- An expression on a line of its own. -/
def readExpression : Reader Expression := do
  match ← peek with
  | some '[' => readHeading
  | _ => do
      let (path, value) ← pair value
      return .assignment path value

/-- A line that says something or nothing, up to its end. -/
def line : Reader (Option Expression) := do
  blanks
  match ← peek with
  | none => failure
  | some c =>
      let expression ←
        if c = '#' || c = '\n' || c = '\r' then pure none else some <$> readExpression
      lineEnd
      return expression

/-- All expressions of a document. -/
def all : Reader (List Expression) := do
  let _ ← maybe (mark "\uFEFF")
  let lines ← many line
  blanks
  return lines.filterMap id

end Expression
end Toml
end TailView
