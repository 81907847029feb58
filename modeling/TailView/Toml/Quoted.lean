import TailView.Text.Reader

/-!
# Quoted text

A text is quoted in one of four forms.  Basic forms know escapes, literal forms do not; either has a
form for one line and one for several lines, which is marked by three quotes.  In a form for several
lines a line break directly after the opening marks does not count.

A text is written in the first form that shows it without an escape, the plainest form first.
-/

namespace TailView
namespace Toml
namespace Quoted

open Text Text.Reader

/-- Control characters, other than tab, which may not stand for themselves.  A line break is one of
them as well. -/
def isControl (c : Char) : Bool := (c.toNat < 0x20 && c != '\t') || c = '\x7f'

/-- Whether a text goes on with a line break, which is left out. -/
def afterBreak? : List Char → Option (List Char)
  | '\n' :: rest => some rest
  | '\r' :: '\n' :: rest => some rest
  | _ => none

/-- Whether there is nothing but spaces and tabs before the next line break. -/
def endsLine (cs : List Char) : Bool :=
  (afterBreak? (cs.dropWhile fun c => c = ' ' || c = '\t')).isSome

/-- A hexadecimal digit's value. -/
def hexValue? (c : Char) : Option Nat :=
  if c.isDigit then some (c.toNat - '0'.toNat)
  else if 'a' ≤ c ∧ c ≤ 'f' then some (c.toNat - 'a'.toNat + 10)
  else if 'A' ≤ c ∧ c ≤ 'F' then some (c.toNat - 'A'.toNat + 10)
  else none

/-- The character with a number in hexadecimal digits, if there is one. -/
def codePoint? (digits : List Char) : Option Char := do
  let value ← digits.foldlM (fun value c => (hexValue? c).map (16 * value + ·)) 0
  if value.isValidChar then return Char.ofNat value else none

/-- The characters that have an escape of one letter, and the letter. -/
def escapes : List (Char × Char) :=
  [('\x08', 'b'), ('\t', 't'), ('\n', 'n'), ('\x0c', 'f'), ('\r', 'r'), ('"', '"'), ('\\', '\\')]

/-- The character that an escape of one letter stands for. -/
def unescape? (letter : Char) : Option Char :=
  (escapes.find? fun escape => escape.2 = letter).map (·.1)

/-- A content with one more character at its front. -/
def cons (c : Char) : List Char × List Char → List Char × List Char
  | (content, rest) => (c :: content, rest)

/-- The content of a basic form for one line, and what follows its closing mark. -/
def basicContent : List Char → Option (List Char × List Char)
  | '"' :: rest => some ([], rest)
  | '\\' :: 'u' :: a :: b :: c :: d :: rest => do
      return cons (← codePoint? [a, b, c, d]) (← basicContent rest)
  | '\\' :: 'U' :: a :: b :: c :: d :: e :: f :: g :: h :: rest => do
      return cons (← codePoint? [a, b, c, d, e, f, g, h]) (← basicContent rest)
  | '\\' :: letter :: rest => do return cons (← unescape? letter) (← basicContent rest)
  | c :: rest => if isControl c then none else (basicContent rest).map (cons c)
  | [] => none

/-- The content of a basic form for several lines, and what follows its closing marks.  Up to two
quotes may stand directly before the closing marks.  After a backslash at the end of a line white
space is skipped. -/
def basicLines (skipping : Bool) : List Char → Option (List Char × List Char)
  | '"' :: '"' :: '"' :: '"' :: '"' :: rest => some (['"', '"'], rest)
  | '"' :: '"' :: '"' :: '"' :: rest => some (['"'], rest)
  | '"' :: '"' :: '"' :: rest => some ([], rest)
  | '\\' :: 'u' :: a :: b :: c :: d :: rest => do
      return cons (← codePoint? [a, b, c, d]) (← basicLines false rest)
  | '\\' :: 'U' :: a :: b :: c :: d :: e :: f :: g :: h :: rest => do
      return cons (← codePoint? [a, b, c, d, e, f, g, h]) (← basicLines false rest)
  | '\\' :: letter :: rest =>
      match unescape? letter with
      | some c => (basicLines false rest).map (cons c)
      | none => if endsLine (letter :: rest) then basicLines true (letter :: rest) else none
  | '\r' :: '\n' :: rest =>
      if skipping then basicLines true rest else (basicLines false rest).map (cons '\n')
  | c :: rest =>
      if skipping && (c = ' ' || c = '\t' || c = '\n') then basicLines true rest
      else if isControl c && c != '\n' then none
      else (basicLines false rest).map (cons c)
  | [] => none

/-- The content of a literal form for one line, and what follows its closing mark. -/
def literalContent : List Char → Option (List Char × List Char)
  | '\'' :: rest => some ([], rest)
  | c :: rest => if isControl c then none else (literalContent rest).map (cons c)
  | [] => none

/-- The content of a literal form for several lines, and what follows its closing marks. -/
def literalLines : List Char → Option (List Char × List Char)
  | '\'' :: '\'' :: '\'' :: '\'' :: '\'' :: rest => some (['\'', '\''], rest)
  | '\'' :: '\'' :: '\'' :: '\'' :: rest => some (['\''], rest)
  | '\'' :: '\'' :: '\'' :: rest => some ([], rest)
  | '\r' :: '\n' :: rest => (literalLines rest).map (cons '\n')
  | c :: rest =>
      if isControl c && c != '\n' then none else (literalLines rest).map (cons c)
  | [] => none

/-- A content as a text. -/
def asText : Option (List Char × List Char) → Option (String × List Char) :=
  Option.map fun (content, rest) => (String.ofList content, rest)

/-- A text in a form for one line. -/
def readLine : Reader String :=
  ofFunction fun
    | '"' :: rest => asText (basicContent rest)
    | '\'' :: rest => asText (literalContent rest)
    | _ => none

/-- A text in any form. -/
def read : Reader String :=
  ofFunction fun
    | '"' :: '"' :: '"' :: rest => asText (basicLines false ((afterBreak? rest).getD rest))
    | '\'' :: '\'' :: '\'' :: rest => asText (literalLines ((afterBreak? rest).getD rest))
    | cs => readLine.start cs

/-- The length of the longest run of a character. -/
def longestRun (mark : Char) (cs : List Char) : Nat :=
  (cs.foldl (fun (run, longest) c =>
    let run := if c = mark then run + 1 else 0
    (run, max run longest)) (0, 0)).2

/-- A digit of a number in hexadecimal notation. -/
def hexDigit (n : Nat) : Char := (Nat.digitChar n).toUpper

/-- A character of a basic form. -/
def escaped (c : Char) : List Char :=
  match escapes.find? fun escape => escape.1 = c with
  | some (_, letter) => ['\\', letter]
  | none =>
      if isControl c then ['\\', 'u', '0', '0', hexDigit (c.toNat / 16), hexDigit (c.toNat % 16)]
      else [c]

/-- The content of a basic form for several lines: line breaks stand for themselves, and so do
quotes, except for the third one of a run. -/
def escapedLines (run : Nat) : List Char → List Char
  | [] => []
  | '\n' :: rest => '\n' :: escapedLines 0 rest
  | '"' :: rest =>
      if run = 2 then '\\' :: '"' :: escapedLines 0 rest else '"' :: escapedLines (run + 1) rest
  | c :: rest => escaped c ++ escapedLines 0 rest

/-- A content between marks. -/
def between (mark : String) (content : List Char) : String :=
  mark ++ String.ofList content ++ mark

/-- A content between the marks of a form for several lines.  A content with line breaks starts on a
line of its own. -/
def betweenLines (mark : String) (content : List Char) : String :=
  between mark ((if '\n' ∈ content then ['\n'] else []) ++ content)

/-- The basic form for one line. -/
def basic (cs : List Char) : String := between "\"" (cs.flatMap escaped)

/-- The basic form for several lines. -/
def multilineBasic (cs : List Char) : String := betweenLines "\"\"\"" (escapedLines 0 cs)

/-- A text in the first form that needs no escape, or else in a basic form. -/
def write (text : String) : String :=
  let cs := text.toList
  let oneLine := '\n' ∉ cs
  let plain := !cs.any fun c => isControl c && c != '\n'
  let basicPlain := plain && '\\' ∉ cs
  if basicPlain && '"' ∉ cs && oneLine then basic cs
  else if plain && '\'' ∉ cs && oneLine then between "'" cs
  else if basicPlain && longestRun '"' cs ≤ 2 then multilineBasic cs
  else if plain && longestRun '\'' cs ≤ 2 then betweenLines "'''" cs
  else if oneLine then basic cs
  else multilineBasic cs

/-- The characters of a key that needs no quotes. -/
def isBare (c : Char) : Bool := c.isAlphanum || c = '_' || c = '-'

/-- A key, in quotes only if it needs them; it stands on one line. -/
def writeKey (key : String) : String :=
  let cs := key.toList
  if !cs.isEmpty && cs.all isBare then key
  else if !cs.any isControl && ('\\' ∈ cs || '"' ∈ cs) && '\'' ∉ cs then between "'" cs
  else basic cs

end Quoted
end Toml
end TailView
