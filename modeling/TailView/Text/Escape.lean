/-!
# Terminal escape sequences

Three forms are known: control sequences (`ESC [`, parameters, a letter), system commands (`ESC ]`,
a text, and BEL or `ESC \` at its end) and selections of a character set (`ESC (` or `ESC )` and
one of `A B 0 1 2`).  Stripping reads from the left, leaves out a complete sequence wherever one
starts, and keeps every other character; a sequence that is not complete is kept as it stands.
-/

namespace TailView
namespace Text
namespace Escape

/-- The character that starts every escape sequence. -/
def esc : Char := '\x1b'

/-- The character that may end a system command. -/
def bel : Char := '\x07'

/-- The pattern for complete sequences. -/
def sequencePattern : String :=
  "\\x1b\\[[0-9;?]*[A-Za-z]|\\x1b\\][^\\x07\\x1b]*(?:\\x07|\\x1b\\\\)|\\x1b[()][A-B0-2]"

/-- The characters allowed between `ESC [` and the final letter. -/
def isParameter (c : Char) : Bool := c.isDigit || c = ';' || c = '?'

/-- The characters that name a character set. -/
def isCharset (c : Char) : Bool := c = 'A' || c = 'B' || c = '0' || c = '1' || c = '2'

/-- How many characters a control sequence has after `ESC [`, if it is complete. -/
def controlLength? : List Char → Option Nat
  | [] => none
  | c :: rest =>
      if isParameter c then (controlLength? rest).map (· + 1)
      else if c.isAlpha then some 1 else none

/-- How many characters a system command has after `ESC ]`, if it is complete. -/
def commandLength? : List Char → Option Nat
  | [] => none
  | c :: rest =>
      if c = bel then some 1
      else if c = esc then (if rest.head? = some '\\' then some 2 else none)
      else (commandLength? rest).map (· + 1)

/-- How many characters the complete sequence at the start of a text has, if there is one. -/
def length? : List Char → Option Nat
  | first :: second :: rest =>
      if first = esc then
        if second = '[' then (controlLength? rest).map (· + 2)
        else if second = ']' then (commandLength? rest).map (· + 2)
        else if second = '(' ∨ second = ')' then
          match rest with
          | c :: _ => if isCharset c then some 3 else none
          | [] => none
        else none
      else none
  | _ => none

/-- Strips the complete sequences; `skip` characters still belong to the last one found. -/
def stripFrom (skip : Nat) : List Char → List Char
  | [] => []
  | c :: rest =>
      match skip with
      | more + 1 => stripFrom more rest
      | 0 =>
          match length? (c :: rest) with
          | some length => stripFrom (length - 1) rest
          | none => c :: stripFrom 0 rest

/-- A text without its complete escape sequences. -/
def stripChars (cs : List Char) : List Char := stripFrom 0 cs

/-- A text without its complete escape sequences. -/
def strip (s : String) : String := String.ofList (stripChars s.toList)

/-- A sequence starts with the escape character. -/
theorem head_of_length? {c : Char} {rest : List Char} {n : Nat} (h : length? (c :: rest) = some n) :
    c = esc := by
  cases rest with
  | nil => simp [length?] at h
  | cons d rest =>
      by_cases hc : c = esc
      · exact hc
      · simp [length?, hc] at h

/-- A text without the escape character is not changed. -/
theorem stripChars_of_not_mem {cs : List Char} (h : esc ∉ cs) : stripChars cs = cs := by
  induction cs with
  | nil => rfl
  | cons c rest ih =>
      simp only [List.mem_cons, not_or] at h
      unfold stripChars stripFrom
      cases hl : length? (c :: rest) with
      | some n => exact absurd (head_of_length? hl).symm h.1
      | none => simpa [stripChars] using ih h.2

end Escape
end Text
end TailView
