import TailView.Number.Integer
import TailView.Text.Reader

/-!
# Reading JSON objects

An object whose values are strings, natural numbers, truth values or null.  Blanks may stand between
its parts.  In a string a backslash and a letter, or a backslash and the code of a character in
hexadecimal digits, stand for a character; a character beyond the first 2^16 has two such codes.
Quotes, backslashes and characters below the blank stand for nothing by themselves.
-/

namespace TailView
namespace Text
namespace Json

open Reader

/-- A value that is made of no others. -/
inductive Scalar
  | text (value : String)
  | number (value : Nat)
  | truth (value : Bool)
  | null
deriving DecidableEq, Repr

/-- The characters that may stand between the parts of an object. -/
def isBetween (c : Char) : Bool := c = ' ' || c = '\t' || c = '\n' || c = '\r'

/-- The value of a hexadecimal digit. -/
def hexValue? (c : Char) : Option Nat :=
  if '0' ≤ c ∧ c ≤ '9' then some (c.toNat - '0'.toNat)
  else if 'a' ≤ c ∧ c ≤ 'f' then some (c.toNat - 'a'.toNat + 10)
  else if 'A' ≤ c ∧ c ≤ 'F' then some (c.toNat - 'A'.toNat + 10)
  else none

/-- A code of four hexadecimal digits. -/
def code : Reader Nat :=
  ofFunction fun
    | a :: b :: c :: d :: rest => do
        let a ← hexValue? a
        let b ← hexValue? b
        let c ← hexValue? c
        let d ← hexValue? d
        return (((a * 16 + b) * 16 + c) * 16 + d, rest)
    | _ => none

/-- The character that a letter behind a backslash stands for. -/
def escaped? (letter : Char) : Option Char :=
  match letter with
  | '"' => some '"'
  | '\\' => some '\\'
  | '/' => some '/'
  | 'b' => some '\x08'
  | 'f' => some '\x0c'
  | 'n' => some '\n'
  | 'r' => some '\r'
  | 't' => some '\t'
  | _ => none

/-- The character with a given code, and the other half of it if the code is the first half. -/
def codedCharacter (first : Nat) : Reader Char := do
  if 0xD800 ≤ first ∧ first < 0xDC00 then
    mark "\\u"
    let second ← code
    if 0xDC00 ≤ second ∧ second < 0xE000 then
      return Char.ofNat (0x10000 + (first - 0xD800) * 0x400 + (second - 0xDC00))
    else failure
  else if 0xDC00 ≤ first ∧ first < 0xE000 then failure
  else return Char.ofNat first

/-- What stands behind a backslash. -/
def escape : Reader Char := do
  let letter ← char fun _ => true
  if letter = 'u' then codedCharacter (← code)
  else
    match escaped? letter with
    | some c => return c
    | none => failure

/-- One character inside quotes. -/
def character : Reader Char := do
  let c ← char fun c => c ≠ '"' && 32 ≤ c.toNat
  if c = '\\' then escape else return c

/-- A text in quotes. -/
def string : Reader String := do
  mark "\""
  let cs ← many character
  mark "\""
  return String.ofList cs

/-- A natural number; only zero starts with zero. -/
def natural : Reader Nat := do
  let digits ← span Char.isDigit
  if digits.head? = some '0' ∧ digits ≠ ['0'] then failure
  match Number.readDigits digits with
  | some n => return n
  | none => failure

/-- A value that is made of no others; its first character shows of which kind it is. -/
def scalar : Reader Scalar := do
  match ← peek with
  | some '"' => return .text (← string)
  | some 't' => do
      mark "true"
      return .truth true
  | some 'f' => do
      mark "false"
      return .truth false
  | some 'n' => do
      mark "null"
      return .null
  | _ => return .number (← natural)

/-- A mark with blanks in front of it and behind it. -/
def punctuation (text : String) : Reader Unit := do
  let _ ← span isBetween
  mark text
  let _ ← span isBetween

/-- A field: its name and its value. -/
def field : Reader (String × Scalar) := do
  let name ← string
  punctuation ":"
  return (name, ← scalar)

/-- An object: its fields. -/
def fields : Reader (List (String × Scalar)) := do
  punctuation "\x7b"
  let fields ← separated (punctuation ",") field
  punctuation "\x7d"
  return fields

/-- The fields of the object that a text is, if it is one. -/
def readObject? (text : String) : Option (List (String × Scalar)) := fields.whole? text.toList

end Json
end Text
end TailView
