import TailView.Pattern.Fault
import TailView.Pattern.Tree
import TailView.Text.Blank
import TailView.Text.Split

/-!
# Reading the parts of a pattern

A cursor is what is left of a pattern, and whether blanks and comments are left out.  Here are the
parts that hold no other parts: numbers, escapes, names and flags.
-/

namespace TailView
namespace Pattern

/-- What is left of a pattern. -/
structure Cursor where
  /-- The characters not read yet. -/
  rest : List Char
  /-- Whether blanks and comments are left out. -/
  verbose : Bool := false
deriving DecidableEq, Repr

namespace Cursor

/-- The characters after blanks and comments; a comment goes from `#` to the end of the line. -/
def skipIgnored (inComment : Bool) : List Char → List Char
  | [] => []
  | c :: rest =>
      if inComment then skipIgnored (c != '\n') rest
      else if Text.isBlank c then skipIgnored false rest
      else if c = '#' then skipIgnored true rest
      else c :: rest

/-- The cursor at other characters. -/
def withRest (cursor : Cursor) (rest : List Char) : Cursor := { cursor with rest }

/-- The cursor after blanks and comments, where they are left out. -/
def skipSpace (cursor : Cursor) : Cursor :=
  if cursor.verbose then cursor.withRest (skipIgnored false cursor.rest) else cursor

/-- The cursor after one character. -/
def next (cursor : Cursor) : Cursor := cursor.withRest cursor.rest.tail

/-- The cursor after one character and what is left out behind it. -/
def nextSpace (cursor : Cursor) : Cursor := cursor.next.skipSpace

/-- Whether a character is at the cursor. -/
def isAt (cursor : Cursor) (c : Char) : Bool := cursor.rest.head? = some c

/-- The cursor after a given text, if that text is at the cursor. -/
def after? (cursor : Cursor) (text : String) : Option Cursor :=
  (text.toList.isPrefixOf? cursor.rest).map cursor.withRest

/-- The first character that is not left out; a comment ends the search at its second character
that is no blank. -/
def seek? (inComment : Bool) : List Char → Option Char
  | [] => none
  | c :: rest =>
      if Text.isBlank c then seek? inComment rest
      else if !inComment && c = '#' then seek? true rest
      else some c

/-- The character after the one at the cursor and what is left out behind that; the very next
character if everything behind it is left out. -/
def peekSpace? (cursor : Cursor) : Option Char :=
  let following := cursor.rest.tail
  if cursor.verbose then (seek? false following).or following.head? else following.head?

/-- The cursor after blanks, whether they are left out or not. -/
def skipBlanks (cursor : Cursor) : Cursor := cursor.withRest (cursor.rest.dropWhile Text.isBlank)

/-- The characters at the cursor that satisfy `take`; what is left out may stand between them.
The bound on their number is never reached. -/
def takeSpaced (take : Char → Bool) : Nat → Cursor → List Char × Cursor
  | 0, cursor => ([], cursor)
  | bound + 1, cursor =>
      match cursor.rest with
      | [] => ([], cursor)
      | c :: _ =>
          if take c then
            let (cs, last) := takeSpaced take bound cursor.nextSpace
            (c :: cs, last)
          else ([], cursor)

/-- As `takeSpaced`, with a bound that the input cannot reach. -/
def takeWhile (cursor : Cursor) (take : Char → Bool) : List Char × Cursor :=
  takeSpaced take (cursor.rest.length + 1) cursor

/-- The cursor after blanks, and after what is left out behind each of them. -/
def skipBlanksSpaced (cursor : Cursor) : Cursor := (cursor.takeWhile Text.isBlank).2

/-- The value of digits in the given base. -/
def valueOf (base : Nat) (digits : List Char) : Nat :=
  digits.foldl (fun value c =>
    let lower := c.toLower
    base * value + (if lower.isDigit then lower.toNat - 48 else lower.toNat - 87)) 0

/-- The greatest count of a repetition. -/
def maxCount : Nat := 4294967295

/-- A count with blanks around it, or `none` if there are no digits. -/
def count (cursor : Cursor) : Except Fault (Option Nat) × Cursor :=
  let (digits, cursor) := cursor.skipBlanks.takeWhile Char.isDigit
  let cursor := cursor.skipBlanksSpaced
  if digits.isEmpty then (.ok none, cursor)
  else if maxCount < valueOf 10 digits then (.error .repetitionCount, cursor)
  else (.ok (some (valueOf 10 digits)), cursor)

/-- Whether a character is a hexadecimal digit. -/
def isHex (c : Char) : Bool := c.isDigit || ('a' ≤ c && c ≤ 'f') || ('A' ≤ c && c ≤ 'F')

/-- The character with the code point that hexadecimal digits denote. -/
def charOf (digits : List Char) : Except Fault Char :=
  let code := valueOf 16 digits
  if digits.isEmpty || 0x10FFFF < code || (0xD800 ≤ code && code ≤ 0xDFFF) then
    .error .hexadecimal
  else .ok (Char.ofNat code)

/-- A fixed number of hexadecimal digits. -/
def hexDigits : Nat → Cursor → Except Fault (List Char × Cursor)
  | 0, cursor => .ok ([], cursor)
  | more + 1, cursor =>
      match cursor.rest with
      | [] => .error .escapeAtEnd
      | c :: _ =>
          if isHex c then do
            let (cs, last) ← hexDigits more cursor.nextSpace
            return (c :: cs, last)
          else .error .hexadecimal

/-- The code point after `x`, `u` or `U`: in braces, or with two, four or eight digits. -/
def hexadecimal (cursor : Cursor) (letter : Char) : Except Fault (Literal × Cursor) :=
  let digitCount := if letter = 'x' then 2 else if letter = 'u' then 4 else 8
  let cursor := cursor.nextSpace
  match cursor.rest with
  | [] => .error .escapeAtEnd
  | '{' :: _ =>
      let (digits, cursor) := cursor.nextSpace.takeWhile isHex
      match cursor.rest with
      | '}' :: _ => do return ({ char := ← charOf digits }, cursor.nextSpace)
      | [] => .error .escapeAtEnd
      | _ => .error .hexadecimal
  | _ => do
      let (digits, cursor) ← hexDigits digitCount cursor
      return ({ char := ← charOf digits, asByte := letter = 'x' }, cursor)

/-- A query from the text in braces, and whether it asks for all values but one. -/
def queryOf (text : List Char) : Query × Bool :=
  match Text.splitAround ['!', '='] text with
  | some (name, value) => (.valued (String.ofList name) (String.ofList value), true)
  | none =>
      match (Text.splitFirst ':' text).or (Text.splitFirst '=' text) with
      | some (name, value) => (.valued (String.ofList name) (String.ofList value), false)
      | none => (.named (String.ofList text), false)

/-- The property after `p` or `P`: one letter, or a text in braces. -/
def property (cursor : Cursor) (negated : Bool) : Except Fault (Tree × Cursor) :=
  let cursor := cursor.nextSpace
  match cursor.rest with
  | [] => .error .escapeAtEnd
  | '{' :: _ =>
      let (text, cursor) := cursor.nextSpace.takeWhile (· != '}')
      if cursor.rest.isEmpty then .error .escapeAtEnd
      else
        let (query, allBut) := queryOf text
        .ok (.property query (negated != allBut), cursor.next)
  | c :: _ =>
      if c = '\\' then .error .propertyName
      else .ok (.property (.named (String.singleton c)) negated, cursor.nextSpace)

/-- The characters with a meaning of their own, which an escape takes away. -/
def isMeta (c : Char) : Bool := "\\.+*?()|[]\x7b\x7d^$#&-~".toList.contains c

/-- The characters that stand for themselves after a backslash. -/
def isPlainEscape (c : Char) : Bool :=
  isMeta c || (c.toNat < 128 && !c.isAlphanum && c != '<' && c != '>')

/-- The characters of the names of word boundaries. -/
def isBoundaryLetter (c : Char) : Bool := c.isAlpha || c = '-'

/-- The special word boundary after `\b`, if there is one: a name in braces. -/
def boundary (cursor : Cursor) : Except Fault (Tree × Cursor) :=
  if !cursor.isAt '{' then .ok (.place .wordBoundary, cursor)
  else
    let inside := cursor.nextSpace
    match inside.rest with
    | [] => .error .boundaryName
    | c :: _ =>
        if !isBoundaryLetter c then .ok (.place .wordBoundary, cursor)
        else
          let (name, last) := inside.takeWhile isBoundaryLetter
          if !last.isAt '}' then .error .boundaryName
          else
            match String.ofList name with
            | "start" => .ok (.place .wordStart, last.next)
            | "end" => .ok (.place .wordEnd, last.next)
            | "start-half" => .ok (.place .wordStartHalf, last.next)
            | "end-half" => .ok (.place .wordEndHalf, last.next)
            | _ => .error .boundaryName

/-- The escape whose backslash is at the cursor. -/
def escape (cursor : Cursor) : Except Fault (Tree × Cursor) :=
  let cursor := cursor.next
  let literal (c : Char) : Except Fault (Tree × Cursor) := .ok (.literal { char := c }, cursor.next)
  let shorthand (kind : Shorthand) (negated : Bool) : Except Fault (Tree × Cursor) :=
    .ok (.shorthand kind negated, cursor.next)
  match cursor.rest with
  | [] => .error .escapeAtEnd
  | c :: _ =>
      if c.isDigit then .error .backreference
      else if c = 'x' ∨ c = 'u' ∨ c = 'U' then do
        let (found, last) ← cursor.hexadecimal c
        return (.literal found, last)
      else if c = 'p' ∨ c = 'P' then cursor.property (c = 'P')
      else if isPlainEscape c then literal c
      else
        match c with
        | 'd' => shorthand .digit false
        | 's' => shorthand .space false
        | 'w' => shorthand .word false
        | 'D' => shorthand .digit true
        | 'S' => shorthand .space true
        | 'W' => shorthand .word true
        | 'a' => literal '\x07'
        | 'f' => literal '\x0c'
        | 't' => literal '\t'
        | 'n' => literal '\n'
        | 'r' => literal '\r'
        | 'v' => literal '\x0b'
        | 'A' => .ok (.place .textStart, cursor.next)
        | 'z' => .ok (.place .textEnd, cursor.next)
        | 'b' => cursor.next.boundary
        | 'B' => .ok (.place .notWordBoundary, cursor.next)
        | '<' => .ok (.place .wordStart, cursor.next)
        | '>' => .ok (.place .wordEnd, cursor.next)
        | _ => .error .escapeUnknown

/-- The flag with a given letter. -/
def flag? : Char → Option Flag
  | 'i' => some .caseless
  | 'm' => some .multiLine
  | 's' => some .dotAll
  | 'U' => some .swapGreed
  | 'u' => some .unicode
  | 'R' => some .crlf
  | 'x' => some .verbose
  | _ => none

/-- Flags up to a colon or a closing parenthesis, which stays at the cursor.  After a hyphen the
flags are turned off. -/
def flags (negated dangling : Bool) (seen : FlagChanges) (cursor : Cursor) :
    List Char → Except Fault (FlagChanges × Cursor)
  | [] => .error .groupUnclosed
  | c :: rest =>
      if c = ':' ∨ c = ')' then
        if dangling then .error .flagDangling else .ok (seen.reverse, cursor.withRest (c :: rest))
      else if c = '-' then
        if negated then .error .flagRepeated else flags true true seen cursor rest
      else
        match flag? c with
        | none => .error .flagUnknown
        | some found =>
            if seen.any fun change => change.1 = found then .error .flagRepeated
            else flags negated false ((found, !negated) :: seen) cursor rest

end Cursor
end Pattern
end TailView
