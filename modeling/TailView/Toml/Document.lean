import TailView.Toml.Expression

/-!
# Documents

A document is a table: the one that its expressions build, one after the other.
-/

namespace TailView
namespace Toml

/-- A document under construction: its tables, and the latest heading. -/
structure Draft where
  entries : Growth := []
  heading : Option KeyPath := none

/-- The draft after an expression. -/
def Draft.add (draft : Draft) : Expression → Option Draft
  | .heading path => do return ⟨← draft.entries.head path, some path⟩
  | .element path => do return ⟨← draft.entries.startElement path, some path⟩
  | .assignment path value => do
      return { draft with entries := ← draft.entries.assignUnder draft.heading path value }

/-- The table that expressions build, if they do not contradict each other. -/
def Table.ofExpressions? (expressions : List Expression) : Option Table :=
  (expressions.foldlM Draft.add {}).map fun draft => Growth.toTable draft.entries

/-- The table of a document. -/
def Table.parse? (text : String) : Option Table := do
  let expressions ← Text.Reader.whole? Expression.all text.toList
  Table.ofExpressions? expressions

end Toml
end TailView
