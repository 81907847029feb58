/-!
# Reading from the front of a text

A reader takes something off the front of a text and leaves the rest, or finds nothing of its kind
there.  Readers run one after the other; where the first of two alternatives finds nothing, the
second one starts from the same place.
-/

namespace TailView
namespace Text

/-- Takes something off the front of a text. -/
abbrev Reader (α : Type) := StateT (List Char) Option α

namespace Reader

/-- What a reader finds at the front, and the rest. -/
def start {α : Type} (reader : Reader α) (cs : List Char) : Option (α × List Char) := reader.run cs

/-- What a reader makes of a whole text. -/
def whole? {α : Type} (reader : Reader α) (cs : List Char) : Option α :=
  match reader.start cs with
  | some (value, []) => some value
  | _ => none

/-- A reader made from a function on the text. -/
def ofFunction {α : Type} (read : List Char → Option (α × List Char)) : Reader α := read

/-- One character of a kind. -/
def char (kind : Char → Bool) : Reader Char :=
  ofFunction fun
    | c :: rest => if kind c then some (c, rest) else none
    | [] => none

/-- The first character, which stays where it is. -/
def peek : Reader (Option Char) := ofFunction fun cs => some (cs.head?, cs)

/-- All characters of a kind up to the first other one. -/
def span (kind : Char → Bool) : Reader (List Char) :=
  ofFunction fun cs => some (cs.takeWhile kind, cs.dropWhile kind)

/-- A given text. -/
def mark (text : String) : Reader Unit :=
  ofFunction fun cs => (text.toList.isPrefixOf? cs).map fun rest => ((), rest)

/-- The end of the text. -/
def atEnd : Reader Unit := ofFunction fun cs => if cs.isEmpty then some ((), cs) else none

/-- What a reader finds, if it finds something. -/
def maybe {α : Type} (reader : Reader α) : Reader (Option α) :=
  ofFunction fun cs =>
    match reader.start cs with
    | some (value, rest) => some (some value, rest)
    | none => some (none, cs)

/-- What a reader finds again and again, at most `bound` times. -/
def manyWithin {α : Type} (reader : Reader α) : Nat → List Char → List α × List Char
  | 0, cs => ([], cs)
  | bound + 1, cs =>
      match reader.start cs with
      | none => ([], cs)
      | some (value, rest) =>
          let (values, rest) := manyWithin reader bound rest
          (value :: values, rest)

/-- What a reader finds again and again.  A reader that takes at least one character each time is
never stopped by the bound. -/
def many {α : Type} (reader : Reader α) : Reader (List α) :=
  ofFunction fun cs => some (manyWithin reader cs.length cs)

/-- What a reader finds again and again, with a separator between the items. -/
def separated {α : Type} (separator : Reader Unit) (item : Reader α) : Reader (List α) := do
  match ← maybe item with
  | none => return []
  | some first =>
      let others ← many (do separator; item)
      return first :: others

/-- Exactly so many characters of a kind. -/
def exactly (count : Nat) (kind : Char → Bool) : Reader (List Char) :=
  ofFunction fun cs =>
    let taken := cs.take count
    if taken.length = count ∧ taken.all kind then some (taken, cs.drop count) else none

end Reader
end Text
end TailView
