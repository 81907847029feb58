import TailView.Number.Binary64

/-!
# Arithmetic on binary numbers

A product is the number nearest to the exact product, and infinite beyond the range.  A number is
rounded to an integer with a half going away from zero, and turned into a word with everything
beyond the words going to the nearest of them.
-/

namespace TailView
namespace Number
namespace Binary64

/-- The number zero. -/
def zero : Binary64 := ofInt 0

/-- The units of a number with its sign. -/
def signedUnits (negative : Bool) (magnitude : Magnitude) : Int :=
  if negative then -(magnitude.units : Int) else magnitude.units

/-- Whether one number is below another; `nan` is neither below nor above any. -/
def below : Binary64 → Binary64 → Bool
  | .nan, _ => false
  | _, .nan => false
  | .infinity negative, .infinity other => negative && !other
  | .infinity negative, .finite _ _ => negative
  | .finite _ _, .infinity other => !other
  | .finite negative magnitude, .finite other otherMagnitude =>
      decide (signedUnits negative magnitude < signedUnits other otherMagnitude)

/-- The greater one of two numbers; of a number and `nan` the number. -/
def greater (x y : Binary64) : Binary64 :=
  if y = .nan ∨ below y x = true then x else y

/-- The product of two numbers.  There is none of zero and something infinite. -/
def mul : Binary64 → Binary64 → Binary64
  | .nan, _ => .nan
  | _, .nan => .nan
  | .infinity negative, .infinity other => .infinity (negative ^^ other)
  | .infinity negative, .finite other magnitude =>
      if magnitude.units = 0 then .nan else .infinity (negative ^^ other)
  | .finite negative magnitude, .infinity other =>
      if magnitude.units = 0 then .nan else .infinity (negative ^^ other)
  | .finite negative magnitude, .finite other otherMagnitude =>
      ofUnits (negative ^^ other) (magnitude.units * otherMagnitude.units) unitsPerOne

/-- The integer nearest to a number, a half going away from zero. -/
def round : Binary64 → Binary64
  | .finite negative magnitude => ofRatio negative (roundHalfUp magnitude.units unitsPerOne) 1
  | x => x

/-- The integer part of a number as a word of 64 bits.  What is below zero and `nan` become zero,
and what is too large becomes the largest word. -/
def toUInt64 : Binary64 → UInt64
  | .nan => 0
  | .infinity negative => if negative then 0 else .ofNat (UInt64.size - 1)
  | .finite negative magnitude =>
      if negative then 0 else .ofNat (min (UInt64.size - 1) (magnitude.units / unitsPerOne))

end Binary64
end Number
end TailView
