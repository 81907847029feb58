import TailView.Toml.Quoted
import TailView.Toml.Value

/-!
# Writing documents

Within a table, plain values come first, then arrays that hold tables, then tables; those of one
kind keep their order.  A table gets a heading of its own, and so does each table of an array that
holds nothing else; a heading that would head nothing but other tables is left out.  An array of two
or more values is written with one value to the line.
-/

namespace TailView
namespace Toml

open Number

/-- Floats have a fraction, even if it is zero. -/
def floatFormat : NumberFormat := ⟨"nan", ".0"⟩

/-- The order in which the values of a table are written. -/
inductive Rank
  /-- Values that hold no table. -/
  | plain
  /-- Arrays that hold a table. -/
  | mixed
  /-- Tables. -/
  | nested
deriving DecidableEq, Repr

/-- Things in the order of their ranks. -/
def Rank.sort {α : Type} (ranked : List (Rank × α)) : List α :=
  [Rank.plain, .mixed, .nested].flatMap fun rank =>
    (ranked.filter fun entry => entry.1 = rank).map (·.2)

/-- A heading with the lines below it. -/
structure Block where
  heading : List String
  lines : List String
deriving DecidableEq, Repr

/-- The text of a block. -/
def Block.text (block : Block) : String :=
  String.join ((block.heading ++ block.lines).map (· ++ "\n"))

namespace Value

/-- The rank of a value. -/
def rank : Value → Rank
  | .table _ => .nested
  | .array items => if items.any isTable then .mixed else .plain
  | _ => .plain

/-- Whether a value is written under headings. -/
def isHeaded : Value → Bool
  | .table _ => true
  | .array items => !items.isEmpty && items.all isTable
  | _ => false

/-- The text of an array with the texts of its items. -/
def arrayText : List String → String
  | [] => "[]"
  | [item] => "[" ++ item ++ "]"
  | items => "[" ++ String.join (items.map fun item => "\n    " ++ item ++ ",") ++ "\n]"

/-- The text of an inline table with the texts of its entries. -/
def inlineTableText : List String → String
  | [] => "\x7b\x7d"
  | entries => "\x7b " ++ ", ".intercalate entries ++ " \x7d"

/-- A key with the text of its value. -/
def pairText (key text : String) : String := Quoted.writeKey key ++ " = " ++ text

mutual

/-- The text of a value behind its key. -/
def text : Value → String
  | .string s => Quoted.write s
  | .integer n => toString n
  | .float x => x.textIn floatFormat
  | .boolean b => if b then "true" else "false"
  | .datetime time => time.text
  | .array items => arrayText (itemTexts items)
  | .table entries => inlineTableText (Rank.sort (pairTexts entries))

/-- The texts of the items of an array. -/
def itemTexts : List Value → List String
  | [] => []
  | item :: rest => text item :: itemTexts rest

/-- The ranked texts of the entries of an inline table. -/
def pairTexts : List (String × Value) → List (Rank × String)
  | [] => []
  | (key, value) :: rest => (value.rank, pairText key (text value)) :: pairTexts rest

end

/-- The lines of the entries that are not written under headings. -/
def lines (entries : Table) : List String :=
  Rank.sort ((entries.filter fun (_, value) => !value.isHeaded).map fun (key, value) =>
    (value.rank, pairText key value.text))

/-- The path of keys in a heading. -/
def pathText (path : List String) : String := ".".intercalate (path.map Quoted.writeKey)

mutual

/-- The blocks of a value at a path that is written under headings. -/
def blocks (path : List String) : Value → List Block
  | .table entries =>
      let lines := lines entries
      let own := if entries.isEmpty || !lines.isEmpty
        then [⟨["[" ++ pathText path ++ "]"], lines⟩] else []
      own ++ (Rank.sort (entryBlocks path entries)).flatten
  | .array items => if isHeaded (.array items) then elementBlocks path items else []
  | _ => []

/-- The blocks of the tables of an array. -/
def elementBlocks (path : List String) : List Value → List Block
  | [] => []
  | .table entries :: rest =>
      ⟨["[[" ++ pathText path ++ "]]"], lines entries⟩ ::
        ((Rank.sort (entryBlocks path entries)).flatten ++ elementBlocks path rest)
  | _ :: rest => elementBlocks path rest

/-- The ranked blocks of the entries of a table. -/
def entryBlocks (path : List String) : List (String × Value) → List (Rank × List Block)
  | [] => []
  | (key, value) :: rest => (value.rank, blocks (path ++ [key]) value) :: entryBlocks path rest

end

end Value

/-- The text of a document: the values without a heading, and then the blocks, with an empty line
between any two. -/
def Table.text (table : Table) : String :=
  let lines := Value.lines table
  let top : List Block := if lines.isEmpty then [] else [⟨[], lines⟩]
  "\n".intercalate ((top ++ (Rank.sort (Value.entryBlocks [] table)).flatten).map Block.text)

end Toml
end TailView
