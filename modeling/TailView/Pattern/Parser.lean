import TailView.Pattern.ClassParser
import TailView.Pattern.Unicode.Property
import TailView.Pattern.Unicode.Category

/-!
# Reading patterns

Groups nest, so the reader keeps a stack of the groups that are open.  A pattern is refused when it
is nested more than 250 levels deep.
-/

namespace TailView
namespace Pattern
namespace Parser

/-- An open group, and what its surroundings held before it, the latest first. -/
structure OpenGroup where
  /-- The parts before the group in its alternative. -/
  before : List Tree
  /-- The alternatives before that one. -/
  alternatives : List Tree
  /-- The name of the group, if it has one. -/
  name : Option String
  /-- The switches of the group. -/
  changes : FlagChanges
  /-- Whether blanks and comments are left out around the group. -/
  verboseOutside : Bool

/-- Where the reader stands. -/
structure State where
  /-- What is left of the pattern. -/
  cursor : Cursor
  /-- The parts read in the alternative at hand, the latest first. -/
  parts : List Tree := []
  /-- The alternatives read in the group at hand, the latest first. -/
  alternatives : List Tree := []
  /-- The groups that are open, the innermost first. -/
  groups : List OpenGroup := []
  /-- The names of groups seen so far. -/
  names : List (List Char) := []

/-- What the group at hand holds. -/
def State.content (state : State) : Tree :=
  Tree.choice (Tree.sequence state.parts.reverse :: state.alternatives).reverse

/-- A state with one more part. -/
def State.add (state : State) (part : Tree) (cursor : Cursor) : State :=
  { state with parts := part :: state.parts, cursor }

/-- The setting of a switch among changes. -/
def setting? (changes : FlagChanges) (flag : Flag) : Option Bool :=
  (changes.find? fun change => change.1 = flag).map (·.2)

/-- The state inside a new group. -/
def State.enter
    (state : State)
    (name : Option String)
    (changes : FlagChanges)
    (cursor : Cursor) :
    State :=
  { cursor := { cursor with verbose := (setting? changes .verbose).getD cursor.verbose }
    groups :=
      ⟨state.parts, state.alternatives, name, changes, state.cursor.verbose⟩ :: state.groups
    names := state.names }

/-- The letters, by the property `Alphabetic`. -/
def alphabetic : RangeTable := (NamedRanges.find? Unicode.properties "alphabetic").getD ⟨#[]⟩

/-- The numbers, by the general categories. -/
def numeric : List RangeTable :=
  ["nd", "nl", "no"].filterMap (NamedRanges.find? Unicode.categories)

/-- The characters that the name of a group can start with.  The table has the ASCII letters too,
but most names need nothing else. -/
def isNameStart (c : Char) : Bool := c = '_' || c.isAlpha || alphabetic.contains c.toNat

/-- The characters of the name of a group. -/
def isNamePart (c : Char) : Bool :=
  isNameStart c || c = '.' || c = '[' || c = ']' || numeric.any (·.contains c.toNat)

/-- The name of a group up to `>`. -/
def groupName (state : State) (cursor : Cursor) : Except Fault State :=
  let name := cursor.rest.takeWhile (· != '>')
  match name, cursor.rest.dropWhile (· != '>') with
  | first :: others, _ :: rest =>
      if isNameStart first && others.all isNamePart && !state.names.contains name then
        let entered := state.enter (some (String.ofList name)) [] (cursor.withRest rest)
        .ok { entered with names := name :: state.names }
      else .error .groupName
  | _, _ => .error .groupName

/-- An opening parenthesis: switches, or the start of a group. -/
def opening (state : State) : Except Fault State :=
  let cursor := state.cursor.nextSpace
  if ["?=", "?!", "?<=", "?<!"].any fun mark => (cursor.after? mark).isSome then
    .error .lookAround
  else
    match (cursor.after? "?P<").or (cursor.after? "?<") with
    | some cursor => groupName state cursor
    | none =>
        match cursor.after? "?" with
        | none => .ok (state.enter none [] cursor)
        | some cursor => do
            let (changes, cursor) ← cursor.flags false false [] cursor.rest
            if cursor.isAt ')' then
              if changes.isEmpty then throw .repetitionMissing
              let verbose := (setting? changes .verbose).getD cursor.verbose
              return state.add (.flags changes) { cursor.next with verbose }
            return state.enter none changes cursor.next

/-- A closing parenthesis: the group at hand becomes a part of its surroundings. -/
def closing (state : State) : Except Fault State :=
  match state.groups with
  | [] => .error .groupUnopened
  | group :: outer =>
      .ok {
        cursor := { state.cursor.next with verbose := group.verboseOutside }
        parts := .group group.name group.changes state.content :: group.before
        alternatives := group.alternatives
        groups := outer
        names := state.names }

/-- The part that a repetition repeats, and the parts before it. -/
def repeated (state : State) : Except Fault (Tree × List Tree) :=
  match state.parts with
  | [] => .error .repetitionMissing
  | .empty :: _ => .error .repetitionMissing
  | .flags _ :: _ => .error .repetitionMissing
  | part :: before => .ok (part, before)

/-- Whether a repetition that ends at the cursor is lazy, and the cursor behind the question mark
that says so. -/
def laziness (cursor : Cursor) : Bool × Cursor :=
  if cursor.isAt '?' then (true, cursor.next) else (false, cursor)

/-- A repetition by one of `? * +`. -/
def repetition (state : State) (least : Nat) (most : Option Nat) : Except Fault State := do
  let (part, before) ← repeated state
  let (lazy, cursor) := laziness state.cursor.next
  return { state with parts := .repetition least most lazy part :: before, cursor }

/-- The bounds of a counted repetition, after its brace; the closing brace stays at the cursor. -/
def bounds (cursor : Cursor) : Except Fault (Nat × Option Nat × Cursor) := do
  if cursor.rest.isEmpty then throw .repetitionCount
  let (least, cursor) := cursor.count
  if cursor.rest.isEmpty then throw .repetitionCount
  if cursor.isAt ',' then
    let cursor := cursor.nextSpace
    if cursor.rest.isEmpty then throw .repetitionCount
    let some least ← least | throw .repetitionCount
    if cursor.isAt '}' then return (least, none, cursor)
    let (most, cursor) := cursor.count
    let some most ← most | throw .repetitionCount
    return (least, some most, cursor)
  let some least ← least | throw .repetitionCount
  return (least, some least, cursor)

/-- A repetition with counts in braces. -/
def counted (state : State) : Except Fault State := do
  let (part, before) ← repeated state
  let (least, most, cursor) ← bounds state.cursor.nextSpace
  if !cursor.isAt '}' then throw .repetitionCount
  if most.any (· < least) then throw .repetitionRange
  let (lazy, cursor) := laziness cursor.nextSpace
  return { state with parts := .repetition least most lazy part :: before, cursor }

/-- One step: reads the part, parenthesis, bar or repetition that starts with the given
character. -/
def step (state : State) (c : Char) : Except Fault State :=
  match c with
  | '(' => opening state
  | ')' => closing state
  | '|' =>
      .ok { state with
        parts := [], cursor := state.cursor.next
        alternatives := Tree.sequence state.parts.reverse :: state.alternatives }
  | '[' => do
      let (part, cursor) ← ClassParser.read state.cursor
      return state.add part cursor
  | '?' => repetition state 0 (some 1)
  | '*' => repetition state 0 none
  | '+' => repetition state 1 none
  | '{' => counted state
  | '\\' => do
      let (part, cursor) ← state.cursor.escape
      return state.add part cursor
  | '.' => .ok (state.add .dot state.cursor.next)
  | '^' => .ok (state.add (.place .lineStart) state.cursor.next)
  | '$' => .ok (state.add (.place .lineEnd) state.cursor.next)
  | c => .ok (state.add (.literal { char := c }) state.cursor.next)

/-- Reads up to the end of the pattern.  Each step reads a character, so the bound is not
reached. -/
def loop : Nat → State → Except Fault Tree
  | 0, _ => .error .tooLarge
  | bound + 1, state =>
      let state := { state with cursor := state.cursor.skipSpace }
      match state.cursor.rest with
      | [] => if state.groups.isEmpty then .ok state.content else .error .groupUnclosed
      | c :: _ => do loop bound (← step state c)

/-- How many levels deep a pattern may be nested. -/
def maxDepth : Nat := 250

/-- A tree that is not nested too deeply. -/
def checkDepth (tree : Tree) : Except Fault Tree :=
  if maxDepth < tree.depth then .error .tooDeep else .ok tree

/-- Reads a pattern. -/
def read (cs : List Char) : Except Fault Tree := do
  checkDepth (← loop (cs.length + 1) { cursor := { rest := cs } })

end Parser
end Pattern
end TailView
