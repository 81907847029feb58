import TailView.Toml.Quoted
import TailView.Toml.Value

/-!
# Scalars

The values that hold no other values.  Digits of numbers may be grouped by underscores, one between
two digits.  Integers have 64 bits; they have no superfluous zeros in front, and in hexadecimal,
octal and binary notation no sign.  A float has digits on both sides of its point.
-/

namespace TailView
namespace Toml
namespace Scalar

open Text Text.Reader Number

/-- A digit of a base. -/
def isDigitOf (base : Nat) (c : Char) : Bool :=
  match Quoted.hexValue? c with
  | some value => value < base
  | none => false

/-- A digit, perhaps with an underscore before it. -/
def groupedDigit (base : Nat) : Reader Char := do
  let _ ← maybe (mark "_")
  char (isDigitOf base)

/-- Digits, grouped by underscores. -/
def digits (base : Nat) : Reader (List Char) := do
  let first ← char (isDigitOf base)
  return first :: (← many (groupedDigit base))

/-- The sign of a number. -/
def sign : Reader (List Char) := do
  return (← maybe (char fun c => c = '+' || c = '-')).toList

/-- Decimal digits without superfluous zeros in front. -/
def wholeDigits : Reader (List Char) := do
  match ← peek with
  | some '0' => do mark "0"; return ['0']
  | _ => digits 10

/-- The digits after the point, with the point. -/
def fraction : Reader (List Char) := do
  mark "."
  return '.' :: (← digits 10)

/-- The exponent, with its mark. -/
def exponent : Reader (List Char) := do
  let _ ← char fun c => c = 'e' || c = 'E'
  let sign ← sign
  return 'e' :: (sign ++ (← digits 10))

/-- A float that is not finite. -/
def specialFloat : Reader Binary64 := do
  let negative := (← sign) = ['-']
  match ← maybe (mark "inf") with
  | some _ => return .infinity negative
  | none => do mark "nan"; return .nan

/-- A float in decimal notation.  Numbers that are too large have no notation, except that below the
range the notation stands for negative infinity. -/
def decimalFloat : Reader Binary64 := do
  let sign ← sign
  let whole ← wholeDigits
  let fraction ← maybe fraction
  let exponent ← maybe exponent
  if fraction.isNone && exponent.isNone then failure
  let text := sign ++ whole ++ fraction.getD [] ++ exponent.getD []
  match Binary64.read text with
  | some value => if value = .infinity false then failure else return value
  | none => failure

/-- The integer with a sign and digits of a base, if it has at most 64 bits. -/
def integerOf? (base : Nat) (sign digits : List Char) : Option Int := do
  let value ← digits.foldlM (fun value c => (Quoted.hexValue? c).map (base * value + ·)) 0
  let signed : Int := if sign = ['-'] then -value else value
  if Int64.minValue.toInt ≤ signed ∧ signed ≤ Int64.maxValue.toInt then return signed else none

/-- An integer in decimal notation. -/
def decimalInteger : Reader Int := do
  let sign ← sign
  (integerOf? 10 sign (← wholeDigits) : Option Int)

/-- An integer in the notation of another base. -/
def markedInteger (start : String) (base : Nat) : Reader Int := do
  mark start
  (integerOf? base [] (← digits base) : Option Int)

/-- An integer in any notation. -/
def integer : Reader Int :=
  markedInteger "0x" 16 <|> markedInteger "0o" 8 <|> markedInteger "0b" 2 <|> decimalInteger

/-- A truth value. -/
def boolean : Reader Bool := do
  match ← maybe (mark "true") with
  | some _ => return true
  | none => do mark "false"; return false

/-- A scalar of any kind. -/
def read : Reader Value := do
  match ← peek with
  | none => failure
  | some c =>
      if c = '"' || c = '\'' then return .string (← Quoted.read)
      else if c = 't' || c = 'f' then return .boolean (← boolean)
      else if c = 'i' || c = 'n' then return .float (← specialFloat)
      else
        (Value.datetime <$> Datetime.read) <|> (Value.float <$> decimalFloat) <|>
          (Value.float <$> specialFloat) <|> (Value.integer <$> integer)

end Scalar
end Toml
end TailView
