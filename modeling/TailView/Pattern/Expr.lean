import TailView.Pattern.CharSet
import TailView.Pattern.Unicode.Word

/-!
# Pattern expressions

What a pattern means once its flags are applied: sets of characters and conditions on places,
combined by sequence, choice and repetition.
-/

namespace TailView
namespace Pattern

/-- Conditions on a place between two characters. -/
inductive Look
  | textStart
  | textEnd
  /-- The start of the text or after a newline. -/
  | lineStart
  /-- The end of the text or before a newline. -/
  | lineEnd
  /-- As `lineStart`, where a carriage return with or without a newline ends a line too. -/
  | crlfStart
  /-- As `lineEnd`, where a carriage return with or without a newline ends a line too. -/
  | crlfEnd
  /-- A word character on exactly one side. -/
  | wordBoundary (unicode : Bool)
  /-- A word character on both sides or on none. -/
  | notWordBoundary (unicode : Bool)
  /-- A word character only after the place. -/
  | wordStart (unicode : Bool)
  /-- A word character only before the place. -/
  | wordEnd (unicode : Bool)
  /-- No word character before the place. -/
  | wordStartHalf (unicode : Bool)
  /-- No word character after the place. -/
  | wordEndHalf (unicode : Bool)
deriving DecidableEq, Repr

/-- A place in a text: the characters before and after it. -/
structure Site where
  /-- The character before the place. -/
  before : Option Char
  /-- The character after the place. -/
  after : Option Char
deriving DecidableEq, Repr

/-- Whether a character is one of those that make up words in ASCII. -/
def isAsciiWord (c : Char) : Bool := c.isAlphanum || c = '_'

/-- Whether a character makes up words. -/
def isWord (unicode : Bool) (c : Char) : Bool :=
  isAsciiWord c || (unicode && 128 ≤ c.toNat && Unicode.word.contains c.toNat)

/-- Whether a condition holds at a place. -/
def Look.holds (look : Look) (site : Site) : Bool :=
  let wordBefore (unicode : Bool) := site.before.any (isWord unicode)
  let wordAfter (unicode : Bool) := site.after.any (isWord unicode)
  match look with
  | .textStart => site.before.isNone
  | .textEnd => site.after.isNone
  | .lineStart => site.before.all (· = '\n')
  | .lineEnd => site.after.all (· = '\n')
  | .crlfStart =>
      site.before.all (· = '\n') || (site.before = some '\r' && site.after != some '\n')
  | .crlfEnd =>
      site.after.all (· = '\r') || (site.after = some '\n' && site.before != some '\r')
  | .wordBoundary unicode => wordBefore unicode != wordAfter unicode
  | .notWordBoundary unicode => wordBefore unicode == wordAfter unicode
  | .wordStart unicode => !wordBefore unicode && wordAfter unicode
  | .wordEnd unicode => wordBefore unicode && !wordAfter unicode
  | .wordStartHalf unicode => !wordBefore unicode
  | .wordEndHalf unicode => !wordAfter unicode

/-- A pattern with its flags applied. -/
inductive Expr
  /-- The empty text. -/
  | empty
  /-- One character of a set. -/
  | set (chars : CharSet)
  /-- The empty text at a place with a condition. -/
  | look (condition : Look)
  | cat (first second : Expr)
  | alt (first second : Expr)
  /-- At least `least` and at most `most` times, rather less often if it is lazy. -/
  | repetition (least : Nat) (most : Option Nat) (lazy : Bool) (inner : Expr)
  /-- A group whose text is remembered under a name. -/
  | capture (name : String) (inner : Expr)
deriving Repr

namespace Expr

/-- Whether nothing but the empty text can be matched. -/
def onlyEmpty : Expr → Bool
  | .empty => true
  | .look _ => true
  | .set _ => false
  | .cat first second => first.onlyEmpty && second.onlyEmpty
  | .alt first second => first.onlyEmpty && second.onlyEmpty
  | .repetition _ most _ inner => most = some 0 || inner.onlyEmpty
  | .capture _ inner => inner.onlyEmpty

/-- A repetition; the empty text is not repeated more than once. -/
def repeated (least : Nat) (most : Option Nat) (lazy : Bool) (inner : Expr) : Expr :=
  if most = some 0 then .empty
  else if inner.onlyEmpty then .repetition (min least 1) (some 1) lazy inner
  else .repetition least most lazy inner

/-- About how many bytes the automaton of an expression takes up.  A state has 32 bytes. -/
def weight : Expr → Nat
  | .empty => 32
  | .set (.range low high) =>
      if low = high then 32 * CharSet.utf8Length low else 64 + CharSet.rangeWeight low high
  | .set chars => 64 + chars.weight
  | .look _ => 32
  | .cat first second => first.weight + second.weight
  | .alt first second => first.weight + second.weight + 40
  | .repetition least (some most) _ inner => most * inner.weight + (most - least) * 40 + 32
  | .repetition least none _ inner => max least 1 * inner.weight + 40
  | .capture _ inner => inner.weight

/-- How large the automaton of a pattern may be. -/
def maxWeight : Nat := 10 * 1024 * 1024

end Expr
end Pattern
end TailView
