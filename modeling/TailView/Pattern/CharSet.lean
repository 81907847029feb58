import TailView.Pattern.CaseFold
import TailView.Text.Blank
import TailView.Text.Digit

/-!
# Sets of characters

A set is built from ranges and tables by the operations that patterns offer.  It is kept as the
expression it was built by; whether a character is in it is read off that expression.
-/

namespace TailView
namespace Pattern

/-- A set of characters. -/
inductive CharSet
  /-- No character. -/
  | empty
  /-- The code points from `low` to `high`. -/
  | range (low high : Nat)
  /-- The code points of a table. -/
  | table (ranges : RangeTable)
  | union (first second : CharSet)
  | inter (first second : CharSet)
  | diff (first second : CharSet)
  | symmDiff (first second : CharSet)
  | compl (set : CharSet)
  /-- The characters that agree up to case with one of the set. -/
  | caseless (set : CharSet)
  /-- As `caseless`, but only ASCII letters have variants. -/
  | asciiCaseless (set : CharSet)
deriving Repr

namespace CharSet

/-- Whether a code point is in a set. -/
def contains : CharSet → Nat → Bool
  | .empty, _ => false
  | .range low high, code => low ≤ code && code ≤ high
  | .table ranges, code => ranges.contains code
  | .union first second, code => first.contains code || second.contains code
  | .inter first second, code => first.contains code && second.contains code
  | .diff first second, code => first.contains code && !second.contains code
  | .symmDiff first second, code => first.contains code != second.contains code
  | .compl set, code => !set.contains code
  | .caseless set, code => (CaseFold.variants code).any set.contains
  | .asciiCaseless set, code => (CaseFold.asciiVariants code).any set.contains

/-- The set of one character. -/
def single (c : Char) : CharSet := .range c.toNat c.toNat

/-- The union of sets. -/
def unionAll : List CharSet → CharSet
  | [] => .empty
  | [set] => set
  | set :: rest => .union set (unionAll rest)

/-- All code points. -/
def all : CharSet := .range 0 0x10FFFF

/-- How many bytes the UTF-8 form of a code point has. -/
def utf8Length (code : Nat) : Nat :=
  if code < 0x80 then 1 else if code < 0x800 then 2 else if code < 0x10000 then 3 else 4

/-- About how many bytes the automaton of a range takes up: an ASCII range is one transition, and
any other needs a few states for each byte of its ends. -/
def rangeWeight (low high : Nat) : Nat :=
  if high < 0x80 then 8 else 36 * utf8Length high * (if low = high then 1 else 2) / 2

/-- About how many bytes the automaton of a set takes up. -/
def weight : CharSet → Nat
  | .empty => 0
  | .range low high => rangeWeight low high
  | .table ranges => ranges.ranges.foldl (fun total (low, high) => total + rangeWeight low high) 0
  | .union first second => first.weight + second.weight
  | .inter first second => min first.weight second.weight
  | .diff first second => first.weight + second.weight
  | .symmDiff first second => first.weight + second.weight
  | .compl set => set.weight + rangeWeight 0x80 0x10FFFF
  | .caseless set => 2 * set.weight
  | .asciiCaseless set => 2 * set.weight

@[simp]
theorem contains_single (c : Char) (code : Nat) : (single c).contains code = decide (code = c.toNat) := by
  rw [single, contains, Bool.eq_iff_iff]
  simp
  omega

end CharSet
end Pattern
end TailView
