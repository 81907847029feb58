import TailView.Pattern.Expr

/-!
# Matching in linear time

A matcher is a copy of an expression in which each set of characters carries a mark.  A mark says
that some way of matching has just read a character of that set.  Reading the next character moves
all marks at once, so the text is read once, and no way of matching is tried twice.
-/

namespace TailView
namespace Pattern

/-- An expression without counted repetitions, with a mark at each set. -/
inductive Marked
  | empty
  | look (condition : Look)
  | set (marked : Bool) (chars : CharSet)
  | cat (first second : Marked)
  | alt (first second : Marked)
  /-- Any number of times. -/
  | star (inner : Marked)
deriving Repr

namespace Marked

/-- A given number of copies in sequence, and then `last`. -/
def copies : Nat → Marked → Marked → Marked
  | 0, _, last => last
  | more + 1, inner, last => .cat inner (copies more inner last)

/-- Up to a given number of copies. -/
def upTo : Nat → Marked → Marked
  | 0, _ => .empty
  | more + 1, inner => .alt .empty (.cat inner (upTo more inner))

/-- An expression with its counted repetitions written out, without marks.  Greed and groups do not
matter for whether there is a match. -/
def ofExpr : Expr → Marked
  | .empty => .empty
  | .set chars => .set false chars
  | .look condition => .look condition
  | .cat first second => .cat (ofExpr first) (ofExpr second)
  | .alt first second => .alt (ofExpr first) (ofExpr second)
  | .repetition least (some most) _ inner =>
      copies least (ofExpr inner) (upTo (most - least) (ofExpr inner))
  | .repetition least none _ inner => copies least (ofExpr inner) (.star (ofExpr inner))
  | .capture _ inner => ofExpr inner

/-- Whether the empty text at a place is matched. -/
def nullable (site : Site) : Marked → Bool
  | .empty => true
  | .look condition => condition.holds site
  | .set _ _ => false
  | .cat first second => first.nullable site && second.nullable site
  | .alt first second => first.nullable site || second.nullable site
  | .star _ => true

/-- Whether some way of matching that is under way can end at a place. -/
def ended (site : Site) : Marked → Bool
  | .empty => false
  | .look _ => false
  | .set marked _ => marked
  | .cat first second => second.ended site || (first.ended site && second.nullable site)
  | .alt first second => first.ended site || second.ended site
  | .star inner => inner.ended site

/-- Reads the character after a place.  If `enter` is true, new ways of matching start there. -/
def advance (site : Site) (c : Char) (enter : Bool) : Marked → Marked
  | .empty => .empty
  | .look condition => .look condition
  | .set _ chars => .set (enter && chars.contains c.toNat) chars
  | .cat first second =>
      .cat (first.advance site c enter)
        (second.advance site c (first.ended site || (enter && first.nullable site)))
  | .alt first second => .alt (first.advance site c enter) (second.advance site c enter)
  | .star inner => .star (inner.advance site c (enter || inner.ended site))

/-- Whether a match that is under way, or a new one, can end at a place. -/
def accepts (site : Site) (marked : Marked) : Bool := marked.ended site || marked.nullable site

/-- Whether a match ends at or after the place between `before` and the rest of the text, when new
matches may start anywhere. -/
def search (before : Option Char) (marked : Marked) : List Char → Bool
  | [] => marked.accepts ⟨before, none⟩
  | c :: rest =>
      marked.accepts ⟨before, some c⟩ ||
        search (some c) (marked.advance ⟨before, some c⟩ c true) rest

end Marked
end Pattern
end TailView
