import TailView.Number.Decimal
import TailView.Text.Reader

/-!
# Dates and times

A date is one of the Gregorian calendar, a time may name the leap second, and an offset from
universal time is at most one day.  Fractions of a second count down to the nanosecond; further
digits are dropped.
-/

namespace TailView
namespace Toml

open Text Text.Reader

/-- A day of the calendar. -/
structure Date where
  year : Nat
  month : Nat
  day : Nat
deriving DecidableEq, Repr

/-- A time of day. -/
structure Time where
  hour : Nat
  minute : Nat
  second : Nat
  nanosecond : Nat := 0
deriving DecidableEq, Repr

/-- How far local time is ahead of universal time. -/
inductive Offset
  /-- The time is universal time. -/
  | universal
  /-- So many minutes ahead. -/
  | minutes (ahead : Int)
deriving DecidableEq, Repr

/-- A date, a time, or both. -/
inductive Datetime
  | day (date : Date)
  | clock (time : Time)
  | moment (date : Date) (time : Time) (offset : Option Offset)
deriving DecidableEq, Repr

/-- The digits of a number, with zeros in front up to a width. -/
def paddedText (width n : Nat) : String :=
  String.ofList (Number.padDigits width (Number.digitsOf n))

/-- The text of a date. -/
def Date.text (date : Date) : String :=
  paddedText 4 date.year ++ "-" ++ paddedText 2 date.month ++ "-" ++ paddedText 2 date.day

/-- The text of a time, with as many places of the second as it needs. -/
def Time.text (time : Time) : String :=
  paddedText 2 time.hour ++ ":" ++ paddedText 2 time.minute ++ ":" ++ paddedText 2 time.second ++
    if time.nanosecond = 0 then ""
    else "." ++ String.ofList
      (Number.dropTrailingZeros (Number.padDigits 9 (Number.digitsOf time.nanosecond)))

/-- The text of an offset. -/
def Offset.text : Offset → String
  | .universal => "Z"
  | .minutes ahead =>
      (if ahead < 0 then "-" else "+") ++ paddedText 2 (ahead.natAbs / 60) ++ ":" ++
        paddedText 2 (ahead.natAbs % 60)

/-- The text of a date, a time, or both. -/
def Datetime.text : Datetime → String
  | .day date => date.text
  | .clock time => time.text
  | .moment date time offset =>
      date.text ++ "T" ++ time.text ++
        match offset with
        | none => ""
        | some offset => offset.text

/-- Whether a year has a leap day. -/
def isLeapYear (year : Nat) : Bool := year % 4 = 0 && (year % 100 ≠ 0 || year % 400 = 0)

/-- How many days a month has. -/
def daysInMonth (year month : Nat) : Nat :=
  if month = 2 then (if isLeapYear year then 29 else 28)
  else if month ∈ [4, 6, 9, 11] then 30
  else 31

namespace Datetime

/-- A number of a fixed count of digits, from `low` to `high`. -/
def number (width low high : Nat) : Reader Nat := do
  let value := Number.natOfDigits (← exactly width Char.isDigit)
  if low ≤ value ∧ value ≤ high then return value else failure

/-- A date. -/
def readDate : Reader Date := do
  let year ← number 4 0 9999
  mark "-"
  let month ← number 2 1 12
  mark "-"
  let day ← number 2 1 (daysInMonth year month)
  return ⟨year, month, day⟩

/-- The nanoseconds that the places of a second stand for. -/
def nanoseconds (places : List Char) : Nat :=
  Number.natOfDigits ((places ++ List.replicate 9 '0').take 9)

/-- The places of a second. -/
def readPlaces : Reader Nat := do
  mark "."
  let first ← char Char.isDigit
  return nanoseconds (first :: (← span Char.isDigit))

/-- A time of day. -/
def readTime : Reader Time := do
  let hour ← number 2 0 23
  mark ":"
  let minute ← number 2 0 59
  mark ":"
  let second ← number 2 0 60
  return ⟨hour, minute, second, (← maybe readPlaces).getD 0⟩

/-- An offset from universal time. -/
def readOffset : Reader Offset := do
  let sign ← char fun c => c ∈ ['Z', 'z', '+', '-']
  if sign = 'Z' ∨ sign = 'z' then return .universal
  let hours ← number 2 0 23
  mark ":"
  let ahead : Int := 60 * hours + (← number 2 0 59)
  return .minutes (if sign = '-' then -ahead else ahead)

/-- The time that follows a date, and its offset if it has one. -/
def readTimeOfDate : Reader (Time × Option Offset) := do
  let _ ← char fun c => c ∈ ['T', 't', ' ']
  let time ← readTime
  return (time, ← maybe readOffset)

/-- A date, a time, or both. -/
def read : Reader Datetime := do
  match ← maybe readDate with
  | none => return .clock (← readTime)
  | some date =>
      match ← maybe readTimeOfDate with
      | none => return .day date
      | some (time, offset) => return .moment date time offset

end Datetime
end Toml
end TailView
