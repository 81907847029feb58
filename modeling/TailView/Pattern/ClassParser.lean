import TailView.Pattern.Cursor

/-!
# Reading bracketed classes

Brackets nest, so the reader keeps a stack of what encloses the place it is at: opened brackets,
and operators that wait for their second operand.  Operators bind equally and to the left.
-/

namespace TailView
namespace Pattern
namespace ClassParser

/-- What encloses the place that is read. -/
inductive Enclosing
  /-- An opened bracket, and what its surroundings held before it, the latest first. -/
  | opened (negated : Bool) (before : List ClassTree)
  /-- An operator and its first operand. -/
  | operand (operator : SetOperator) (first : ClassTree)

/-- The classes with names in brackets and colons. -/
def asciiClasses : List (String × List (Nat × Nat)) := [
  ("alnum", [(48, 57), (65, 90), (97, 122)]),
  ("alpha", [(65, 90), (97, 122)]),
  ("ascii", [(0, 127)]),
  ("blank", [(9, 9), (32, 32)]),
  ("cntrl", [(0, 31), (127, 127)]),
  ("digit", [(48, 57)]),
  ("graph", [(33, 126)]),
  ("lower", [(97, 122)]),
  ("print", [(32, 126)]),
  ("punct", [(33, 47), (58, 64), (91, 96), (123, 126)]),
  ("space", [(9, 13), (32, 32)]),
  ("upper", [(65, 90)]),
  ("word", [(48, 57), (65, 90), (95, 95), (97, 122)]),
  ("xdigit", [(48, 57), (65, 70), (97, 102)])]

/-- The class with a name, `[:name:]`, if there is one at the cursor. -/
def ascii? (cursor : Cursor) : Option (ClassTree × Cursor) := do
  let cursor ← cursor.after? "[:"
  let negated := cursor.isAt '^'
  let cursor := if negated then cursor.next else cursor
  let name := cursor.rest.takeWhile (· != ':')
  let cursor ← (cursor.withRest (cursor.rest.dropWhile (· != ':'))).after? ":]"
  let ranges ← asciiClasses.lookup (String.ofList name)
  return (.ascii ranges negated, cursor)

/-- Hyphens at the start of a class, which stand for themselves. -/
def hyphens (bound : Nat) (cursor : Cursor) (items : List ClassTree) : List ClassTree × Cursor :=
  match bound with
  | 0 => (items, cursor)
  | bound + 1 =>
      if cursor.isAt '-' then
        hyphens bound cursor.nextSpace (.literal { char := '-' } :: items)
      else (items, cursor)

/-- The start of a class: the bracket, perhaps `^`, and hyphens or a closing bracket that stand
for themselves.  The items come back with the latest first. -/
def opening (cursor : Cursor) : Except Fault (Bool × List ClassTree × Cursor) := do
  let cursor := cursor.nextSpace
  let negated := cursor.isAt '^'
  let cursor := if negated then cursor.nextSpace else cursor
  let (items, cursor) := hyphens cursor.rest.length cursor []
  if cursor.rest.isEmpty then throw .classUnclosed
  if items.isEmpty && cursor.isAt ']' then
    let cursor := cursor.nextSpace
    if cursor.rest.isEmpty then throw .classUnclosed
    return (negated, [.literal { char := ']' }], cursor)
  return (negated, items, cursor)

/-- One character or escape in a class. -/
def primitive (cursor : Cursor) : Except Fault (Tree × Cursor) :=
  match cursor.rest with
  | [] => .error .classUnclosed
  | c :: _ =>
      if c = '\\' then cursor.escape else .ok (.literal { char := c }, cursor.next)

/-- A part of a pattern as a part of a class. -/
def itemOf : Tree → Except Fault ClassTree
  | .literal found => .ok (.literal found)
  | .shorthand kind negated => .ok (.shorthand kind negated)
  | .property query negated => .ok (.property query negated)
  | _ => .error .classItem

/-- A part of a pattern as an end of a range. -/
def endOf : Tree → Except Fault Literal
  | .literal found => .ok found
  | _ => .error .classRange

/-- One character, escape or range. -/
def rangeOrItem (cursor : Cursor) : Except Fault (ClassTree × Cursor) := do
  let (first, cursor) ← primitive cursor
  let cursor := cursor.skipSpace
  if cursor.rest.isEmpty then throw .classUnclosed
  let following := cursor.peekSpace?
  if !cursor.isAt '-' || following = some ']' || following = some '-' then
    return (← itemOf first, cursor)
  let cursor := cursor.nextSpace
  if cursor.rest.isEmpty then throw .classUnclosed
  let (second, cursor) ← primitive cursor
  let low ← endOf first
  let high ← endOf second
  if high.char < low.char then throw .classRange
  return (.range low high, cursor)

/-- The class that the items and a waiting operator make up, and what encloses it. -/
def close (items : List ClassTree) (stack : List Enclosing) : ClassTree × List Enclosing :=
  let last := ClassTree.ofList items.reverse
  match stack with
  | .operand operator first :: outer => (.operation operator first last, outer)
  | _ => (last, stack)

/-- The operator at the cursor. -/
def operator? (cursor : Cursor) : Option (SetOperator × Cursor) :=
  match cursor.rest with
  | '&' :: '&' :: rest => some (.inter, cursor.withRest rest)
  | '-' :: '-' :: rest => some (.diff, cursor.withRest rest)
  | '~' :: '~' :: rest => some (.symmDiff, cursor.withRest rest)
  | _ => none

/-- Reads up to the bracket that closes the outermost class.  The items of the class at hand come
with the latest first.  Each step reads a character, so the bound is not reached. -/
def loop : Nat → Cursor → List ClassTree → List Enclosing → Except Fault (Tree × Cursor)
  | 0, _, _, _ => .error .classUnclosed
  | bound + 1, cursor, items, stack => do
      let cursor := cursor.skipSpace
      match cursor.rest with
      | [] => throw .classUnclosed
      | '[' :: _ =>
          match if stack.isEmpty then none else ascii? cursor with
          | some (item, cursor) => loop bound cursor (item :: items) stack
          | none =>
              let (negated, inner, cursor) ← opening cursor
              loop bound cursor inner (.opened negated items :: stack)
      | ']' :: _ =>
          let (inner, stack) := close items stack
          match stack with
          | .opened negated before :: outer =>
              if outer.isEmpty then return (.bracketed negated inner, cursor.next)
              else loop bound cursor.next (.bracketed negated inner :: before) outer
          | _ => throw .classUnclosed
      | _ =>
          match operator? cursor with
          | some (operator, cursor) =>
              let (first, stack) := close items stack
              loop bound cursor [] (.operand operator first :: stack)
          | none =>
              let (item, cursor) ← rangeOrItem cursor
              loop bound cursor (item :: items) stack

/-- Reads the class whose opening bracket is at the cursor. -/
def read (cursor : Cursor) : Except Fault (Tree × Cursor) :=
  loop (cursor.rest.length + 1) cursor [] []

end ClassParser
end Pattern
end TailView
