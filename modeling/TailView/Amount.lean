import TailView.Number.Arithmetic
import TailView.Number.Decimal
import TailView.Text.Blank

/-!
# Amounts of log text

How much of a file to fetch is a number with a unit, `0.5mb` or `512kb`.  A written amount is
accepted if it is a positive number directly followed by a unit in any case.  An amount also fixes
how many entries the view keeps.
-/

namespace TailView

open Number

/-- The unit of an amount. -/
inductive SizeUnit
  | kb
  | mb
deriving DecidableEq, Repr

namespace SizeUnit

/-- How many bytes one unit has. -/
def bytes : SizeUnit → Nat
  | .kb => 1024
  | .mb => 1024 * 1024

/-- The name of a unit. -/
def name : SizeUnit → String
  | .kb => "kb"
  | .mb => "mb"

/-- The unit with a given name. -/
def ofName? : String → Option SizeUnit
  | "kb" => some .kb
  | "mb" => some .mb
  | _ => none

end SizeUnit

/-- Why a text is no amount. -/
inductive AmountError
  /-- There is no letter, so no unit. -/
  | missingUnit (text : String)
  /-- What stands before the unit is no number. -/
  | invalidNumber (number : String)
  /-- The number is not finite or not above zero. -/
  | notPositive (number : String)
  /-- The unit is not known. -/
  | unknownUnit (unit : String)
deriving DecidableEq, Repr

/-- What the user is told about a text that is no amount. -/
def AmountError.message : AmountError → String
  | .missingUnit text => "amount '" ++ text ++ "' is missing a unit (kb or mb)"
  | .invalidNumber number => "invalid amount '" ++ number ++ "'"
  | .notPositive number => "amount must be a positive number, got '" ++ number ++ "'"
  | .unknownUnit unit => "unknown size unit '" ++ unit ++ "', expected kb or mb"

/-- Reads a unit in any case. -/
def SizeUnit.read (cs : List Char) : Except AmountError SizeUnit :=
  let lower := String.ofList (cs.map Char.toLower)
  match ofName? lower with
  | some unit => .ok unit
  | none => .error (.unknownUnit lower)

/-- How much of a log file to fetch. -/
structure Amount where
  /-- How many units. -/
  value : Binary64
  /-- The unit. -/
  unit : SizeUnit
deriving DecidableEq

namespace Amount

/-- One megabyte. -/
def standard : Amount := ⟨Binary64.one, .mb⟩

/-- The amount in bytes, rounded to the nearest byte with a half going up, within 64 bits; negative
amounts count as none. -/
def bytes (amount : Amount) : Nat :=
  ((amount.value.greater .zero).mul (.ofInt amount.unit.bytes)).round.toUInt64.toNat

theorem bytes_eq (amount : Amount) :
    amount.bytes =
      ((amount.value.greater .zero).mul (.ofInt amount.unit.bytes)).round.toUInt64.toNat := rfl

-- comparing two amounts of bytes must not start to compute with counts of units
attribute [irreducible] bytes

/-- How many entries a view of this amount keeps, at so many bytes to the line: enough for all of
it, and at least one. -/
def capacity (amount : Amount) (bytesPerLine : Nat) : Nat :=
  max 1 (roundUp amount.bytes (max bytesPerLine 1))

/-- The text of an amount. -/
def text (amount : Amount) : String := amount.value.text ++ amount.unit.name

/-- Reads an amount: a positive number directly followed by a unit, with blanks around. -/
def read (cs : List Char) : Except AmountError Amount := do
  let cs := Text.trimChars cs
  let isLetter (c : Char) : Bool := c.isAlpha
  let number := cs.takeWhile fun c => !isLetter c
  let unit := cs.dropWhile fun c => !isLetter c
  if unit.isEmpty then throw (.missingUnit (String.ofList cs))
  match Binary64.read number with
  | none => throw (.invalidNumber (String.ofList number))
  | some value =>
      if !value.isPositiveFinite then throw (.notPositive (String.ofList number))
      let unit ← SizeUnit.read unit
      return ⟨value, unit⟩

/-- Reads an amount: a positive number directly followed by a unit, with blanks around. -/
def parse (s : String) : Except AmountError Amount := read s.toList

end Amount
end TailView
