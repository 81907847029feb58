import TailView.Number.Decimal

/-!
# Decimal text of integers

An integer is read from a whole text: a sign, which positive numbers may leave out, and at least one
digit.  Numbers outside a range are refused.
-/

namespace TailView
namespace Number

/-- The number with the given decimal digits, if there is at least one and nothing else. -/
def readDigits (cs : List Char) : Option Nat :=
  if !cs.isEmpty && cs.all Char.isDigit then some (natOfDigits cs) else none

/-- Reads a whole text as a number below a limit, perhaps with a plus sign. -/
def readBelow? (limit : Nat) (cs : List Char) : Option Nat := do
  let n ← match cs with
    | '+' :: digits => readDigits digits
    | digits => readDigits digits
  if n < limit then return n else none

/-- Reads a whole text as a number below a limit, perhaps with a plus sign. -/
def parseBelow? (limit : Nat) (s : String) : Option Nat := readBelow? limit s.toList

/-- Reads a whole text as a number of 64 bits with a sign. -/
def parseInt64? (s : String) : Option Int := do
  let n : Int ← match s.toList with
    | '-' :: digits => (readDigits digits).map fun n => -(n : Int)
    | '+' :: digits => (readDigits digits).map Int.ofNat
    | digits => (readDigits digits).map Int.ofNat
  if Int64.minValue.toInt ≤ n ∧ n ≤ Int64.maxValue.toInt then return n else none

end Number
end TailView
