import TailView.Number.Binary64

/-!
# Decimal text of binary numbers

Every finite number is a whole multiple of 10^-1074, so it has an exact position on that decimal
grid.  It is written with the fewest digits that read back as the same number, and of the texts
with so few digits the one nearest to it; there is never an exponent.  Reading takes a decimal to
the nearest number and also accepts an exponent and the names of the values that are no number.
-/

namespace TailView
namespace Number

/-- The value of a run of decimal digits. -/
def natOfDigits (digits : List Char) : Nat :=
  digits.foldl (fun value digit => 10 * value + (digit.toNat - '0'.toNat)) 0

/-- The decimal digits of a number, without leading zeros. -/
def digitsOf (n : Nat) : List Char := Nat.toDigits 10 n

/-- Digits with zeros in front up to the given width. -/
def padDigits (width : Nat) (digits : List Char) : List Char :=
  List.replicate (width - digits.length) '0' ++ digits

/-- Digits without the zeros at their end. -/
def dropTrailingZeros (digits : List Char) : List Char :=
  (digits.reverse.dropWhile (· = '0')).reverse

/-- How many places the decimal grid has after the point. -/
def gridPlaces : Nat := 1074

/-- The position of a count of units on the grid of multiples of 10^-1074. -/
def gridOfUnits (units : Nat) : Nat := units * Nat.pow 5 gridPlaces

/-- The representable count of units nearest to a position on the decimal grid. -/
def unitsOfGrid (grid : Nat) : Nat := nearestUnits grid (Nat.pow 5 gridPlaces)

/-- The two positions around `grid` whose last `dropped` digits are zero, the nearer one first. -/
def coarseNeighbours (grid dropped : Nat) : List Nat :=
  let step := Nat.pow 10 dropped
  let below := grid / step * step
  if 2 * (grid - below) ≤ step then [below, below + step] else [below + step, below]

/-- The position with the fewest digits that reads back as `units`, the nearest one of those.
Seventeen digits are always enough. -/
def shortestGrid (units : Nat) : Nat :=
  let grid := gridOfUnits units
  let width := (digitsOf grid).length
  let readsBack (candidate : Nat) : Bool := unitsOfGrid candidate = units
  ((List.range' 1 17).findSome? fun kept =>
    (coarseNeighbours grid (width - kept)).find? readsBack).getD grid

/-- A position on the decimal grid in positional notation, without superfluous zeros. -/
def gridText (grid : Nat) : List Char :=
  let scale := Nat.pow 10 gridPlaces
  let fraction := dropTrailingZeros (padDigits gridPlaces (digitsOf (grid % scale)))
  digitsOf (grid / scale) ++ (if fraction.isEmpty then [] else '.' :: fraction)

/-- What a format adds to the shortest digits. -/
structure NumberFormat where
  /-- The text of the value that is no number. -/
  nan : String
  /-- What follows the digits of a whole number. -/
  afterWhole : String

/-- Numbers as they stand in messages and commands: `1`, `0.5`, `NaN`. -/
def plainFormat : NumberFormat := ⟨"NaN", ""⟩

namespace Binary64

/-- The sign in front of a negative number. -/
def signText (negative : Bool) : String := if negative then "-" else ""

/-- The text of a number in a format. -/
def textIn (format : NumberFormat) : Binary64 → String
  | .nan => format.nan
  | .infinity negative => signText negative ++ "inf"
  | .finite negative magnitude =>
      signText negative ++ String.ofList (gridText (shortestGrid magnitude.units)) ++
        (if unitsPerOne ∣ magnitude.units then format.afterWhole else "")

/-- The text of a number in messages and commands. -/
def text (x : Binary64) : String := x.textIn plainFormat

/-- The text of a number with a fixed count of places after the point; an exact half goes to the
even neighbour. -/
def fixedText (places : Nat) : Binary64 → String
  | .nan => plainFormat.nan
  | .infinity negative => signText negative ++ "inf"
  | .finite negative magnitude =>
      let scale := Nat.pow 10 places
      let scaled := roundHalfEven (magnitude.units * scale) unitsPerOne
      let fraction := padDigits places (digitsOf (scaled % scale))
      signText negative ++ String.ofList (digitsOf (scaled / scale)) ++
        (if places = 0 then "" else "." ++ String.ofList fraction)

/-- The number nearest to `digits · 10 ^ exponent`.  Exponents so far out that the result is
certainly zero or infinite are settled without computing the power. -/
def ofScientific (negative : Bool) (digits : List Char) (exponent : Int) : Binary64 :=
  let coefficient := natOfDigits digits
  let order := (digitsOf coefficient).length + exponent
  if coefficient = 0 ∨ order < -400 then ofRatio negative 0 1
  else if 400 < order then .infinity negative
  else if 0 ≤ exponent then ofRatio negative (coefficient * Nat.pow 10 exponent.toNat) 1
  else ofRatio negative coefficient (Nat.pow 10 (-exponent).toNat)

/-- A sign, if there is one, and what follows it. -/
def takeSign : List Char → Bool × List Char
  | '-' :: rest => (true, rest)
  | '+' :: rest => (false, rest)
  | rest => (false, rest)

/-- The exponent after the digits: nothing, or `e`, a sign and digits up to the end. -/
def readExponent : List Char → Option Int
  | [] => some 0
  | mark :: rest =>
      if mark = 'e' ∨ mark = 'E' then
        let (negative, digits) := takeSign rest
        if digits.isEmpty || !digits.all Char.isDigit then none
        else some (if negative then -(natOfDigits digits : Int) else natOfDigits digits)
      else none

/-- The digits before and after the point, if there is a point, and what follows them. -/
def takeDecimal (cs : List Char) : List Char × List Char × List Char :=
  let whole := cs.takeWhile Char.isDigit
  match cs.dropWhile Char.isDigit with
  | '.' :: rest => (whole, rest.takeWhile Char.isDigit, rest.dropWhile Char.isDigit)
  | rest => (whole, [], rest)

/-- Reads a whole text as a number: an optional sign and then `inf`, `infinity` or `nan` in any
case, or digits with at most one point and at least one digit, and perhaps an exponent. -/
def read (cs : List Char) : Option Binary64 :=
  let (negative, body) := takeSign cs
  match String.ofList (body.map Char.toLower) with
  | "inf" => some (.infinity negative)
  | "infinity" => some (.infinity negative)
  | "nan" => some .nan
  | _ =>
      let (whole, fraction, rest) := takeDecimal body
      if whole.isEmpty && fraction.isEmpty then none
      else (readExponent rest).map fun exponent =>
        ofScientific negative (whole ++ fraction) (exponent - fraction.length)

/-- Reads a whole text as a number. -/
def parse? (s : String) : Option Binary64 := read s.toList

end Binary64
end Number
end TailView
