/-!
# Tables of code point ranges

A set of characters that a standard lists is kept as an array of ranges in increasing order, in
which a code point is found by halving.  Tables are written as text: hexadecimal code points and
ranges `low-high`, divided by blanks, where `/2` after a range takes every other code point.
-/

namespace TailView
namespace Pattern

/-- Ranges of code points with both ends included, disjoint and in increasing order. -/
structure RangeTable where
  /-- The ranges. -/
  ranges : Array (Nat × Nat)
deriving DecidableEq, Repr

namespace RangeTable

/-- Halves the part of `size` ranges from `base` on until one is left, and keeps the half that a
range around the code point would be in. -/
def narrow (ranges : Array (Nat × Nat)) (code base size : Nat) : Nat :=
  if _h : size ≤ 1 then base
  else
    let half := size / 2
    let middle := base + half
    let base :=
      match ranges[middle]? with
      | some (low, _) => if code < low then base else middle
      | none => base
    narrow ranges code base (size - half)
termination_by size
decreasing_by omega

/-- Whether a code point is in one of the ranges. -/
def contains (table : RangeTable) (code : Nat) : Bool :=
  match table.ranges[narrow table.ranges code 0 table.ranges.size]? with
  | some (low, high) => low ≤ code && code ≤ high
  | none => false

/-- The value of a hexadecimal digit in capitals. -/
def hexDigit (c : Char) : Nat := if c.isDigit then c.toNat - 48 else c.toNat - 55

/-- The value of hexadecimal digits in capitals. -/
def hexValue (cs : List Char) : Nat := cs.foldl (fun value c => 16 * value + hexDigit c) 0

/-- The part before the first `mark`, and the part after it if there is one. -/
def cut (mark : Char) (cs : List Char) : List Char × Option (List Char) :=
  let (before, after) := cs.span (· != mark)
  (before, after.tail?)

/-- A range of code points of which every `stride`-th counts. -/
structure Run where
  /-- The first code point. -/
  low : Nat
  /-- The last code point. -/
  high : Nat
  /-- The distance of the code points that count. -/
  stride : Nat
deriving DecidableEq, Repr

/-- Whether a code point counts in a run. -/
def Run.contains (run : Run) (code : Nat) : Bool :=
  run.low ≤ code && code ≤ run.high && (code - run.low) % run.stride = 0

/-- Reads `low`, `low-high` or `low-high/2`. -/
def Run.decode (cs : List Char) : Run :=
  let (range, stride) := cut '/' cs
  let (low, high) := cut '-' range
  ⟨hexValue low, hexValue (high.getD low), if stride.isSome then 2 else 1⟩

/-- The ranges of a run. -/
def Run.ranges (run : Run) : List (Nat × Nat) :=
  if run.stride = 1 then [(run.low, run.high)]
  else
    (List.range ((run.high - run.low) / run.stride + 1)).map fun index =>
      (run.low + index * run.stride, run.low + index * run.stride)

/-- The words of a text: its parts between blanks. -/
def words (text : String) : List (List Char) :=
  text.toList.foldr (fun c words =>
    match words with
    | [] => if c = ' ' then [[], []] else [[c]]
    | word :: rest => if c = ' ' then [] :: word :: rest else (c :: word) :: rest) [[]]

/-- Reads a table from its lines. -/
def decode (lines : List String) : RangeTable :=
  ⟨((lines.flatMap words).flatMap fun word => (Run.decode word).ranges).toArray⟩

end RangeTable

/-- A set of characters under the names that a standard gives it. -/
structure NamedRanges where
  /-- The names, in lower case and without blanks, hyphens and underscores. -/
  names : List String
  /-- The lines of its table. -/
  ranges : List String
deriving Repr

/-- The set with the given name. -/
def NamedRanges.find? (sets : List NamedRanges) (name : String) : Option RangeTable :=
  (List.find? (fun set => set.names.contains name) sets).map fun set => RangeTable.decode set.ranges

end Pattern
end TailView
