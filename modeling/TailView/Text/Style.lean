/-!
# Styled text

A style is written as an escape sequence before a text and a reset after it.  Where the text holds a
reset of its own, the style is opened again behind it.  Colours can be turned off, and then a text
is not changed.
-/

namespace TailView
namespace Text

/-- The colours in use. -/
inductive Color
  | red
  | green
  | yellow
  | magenta
  | cyan
deriving DecidableEq, Repr

/-- The code of a colour. -/
def Color.code : Color → String
  | .red => "31"
  | .green => "32"
  | .yellow => "33"
  | .magenta => "35"
  | .cyan => "36"

/-- How a text looks. -/
structure Style where
  bold : Bool := false
  dimmed : Bool := false
  italic : Bool := false
  color : Option Color := none
deriving DecidableEq, Repr

namespace Style

/-- A text that looks like its surroundings. -/
def plain : Style := {}

/-- A text in a colour. -/
def colored (color : Color) : Style := { color := some color }

/-- The codes of a style: weight, slant, colour. -/
def codes (style : Style) : List String :=
  (if style.bold then ["1"] else []) ++ (if style.dimmed then ["2"] else []) ++
    (if style.italic then ["3"] else []) ++ (style.color.map Color.code).toList

/-- The sequence that ends every style. -/
def reset : List Char := ['\x1b', '[', '0', 'm']

/-- The sequence that starts a style. -/
def opening (style : Style) : List Char :=
  ['\x1b', '['] ++ (";".intercalate style.codes).toList ++ ['m']

/-- A text with a sequence inserted behind every reset. -/
def afterResets (sequence : List Char) : List Char → List Char
  | '\x1b' :: '[' :: '0' :: 'm' :: rest => reset ++ sequence ++ afterResets sequence rest
  | c :: rest => c :: afterResets sequence rest
  | [] => []

/-- A text in a style. -/
def paint (style : Style) (colors : Bool) (text : String) : String :=
  if !colors || style.codes.isEmpty then text
  else String.ofList (style.opening ++ afterResets style.opening text.toList ++ reset)

end Style
end Text
end TailView
