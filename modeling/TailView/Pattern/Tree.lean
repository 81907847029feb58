/-!
# Parsed patterns

What a pattern says, before flags are applied to it.  A sequence and a choice of many parts are
chains; a chain counts as one level of nesting, like every repetition, group and bracketed class.
-/

namespace TailView
namespace Pattern

/-- The switches of a pattern. -/
inductive Flag
  /-- `i`: letters stand for all their case variants. -/
  | caseless
  /-- `m`: `^` and `$` match at line ends too. -/
  | multiLine
  /-- `s`: the dot matches newlines too. -/
  | dotAll
  /-- `U`: repetitions are lazy unless marked. -/
  | swapGreed
  /-- `u`: classes are those of Unicode. -/
  | unicode
  /-- `R`: a carriage return belongs to the line end. -/
  | crlf
  /-- `x`: blanks and comments are left out. -/
  | verbose
deriving DecidableEq, Repr

/-- Switches that are turned on or off. -/
abbrev FlagChanges := List (Flag × Bool)

/-- Places that a pattern can ask for. -/
inductive Place
  /-- `^`. -/
  | lineStart
  /-- `$`. -/
  | lineEnd
  | textStart
  | textEnd
  | wordBoundary
  | notWordBoundary
  | wordStart
  | wordEnd
  | wordStartHalf
  | wordEndHalf
deriving DecidableEq, Repr

/-- A character of a pattern. -/
structure Literal where
  /-- The character. -/
  char : Char
  /-- Whether it was written as a byte, `\xHH`. -/
  asByte : Bool := false
deriving DecidableEq, Repr

/-- The classes with one-letter names. -/
inductive Shorthand
  | digit
  | space
  | word
deriving DecidableEq, Repr

/-- A property of characters, as it is asked for. -/
inductive Query
  /-- `\p{Name}` or `\pN`. -/
  | named (name : String)
  /-- `\p{name=value}`. -/
  | valued (name value : String)
deriving DecidableEq, Repr

/-- How two classes are combined. -/
inductive SetOperator
  | inter
  | diff
  | symmDiff
deriving DecidableEq, Repr

/-- What stands inside brackets. -/
inductive ClassTree
  | empty
  | literal (literal : Literal)
  | range (low high : Literal)
  /-- `[:name:]`, by its ranges. -/
  | ascii (ranges : List (Nat × Nat)) (negated : Bool)
  | property (query : Query) (negated : Bool)
  | shorthand (kind : Shorthand) (negated : Bool)
  | bracketed (negated : Bool) (inner : ClassTree)
  | union (first rest : ClassTree)
  | operation (operator : SetOperator) (first second : ClassTree)
deriving Repr

/-- A parsed pattern. -/
inductive Tree
  | empty
  /-- Switches that count up to the end of the group. -/
  | flags (changes : FlagChanges)
  | literal (literal : Literal)
  | dot
  | place (place : Place)
  | property (query : Query) (negated : Bool)
  | shorthand (kind : Shorthand) (negated : Bool)
  | bracketed (negated : Bool) (inner : ClassTree)
  /-- At least `least` and at most `most` times; a question mark behind it makes it lazy. -/
  | repetition (least : Nat) (most : Option Nat) (lazy : Bool) (inner : Tree)
  | group (name : Option String) (changes : FlagChanges) (inner : Tree)
  | cat (first rest : Tree)
  | alt (first rest : Tree)
deriving Repr

namespace ClassTree

/-- The union of classes, as a chain. -/
def ofList : List ClassTree → ClassTree
  | [] => .empty
  | [item] => item
  | item :: rest => .union item (ofList rest)

/-- How deeply a class is nested; inside a chain its further links do not count. -/
def depthIn (inChain : Bool) : ClassTree → Nat
  | .bracketed _ inner => 1 + inner.depthIn false
  | .union first rest => (if inChain then 0 else 1) + max (first.depthIn false) (rest.depthIn true)
  | .operation _ first second => 1 + max (first.depthIn false) (second.depthIn false)
  | _ => 0

end ClassTree

namespace Tree

/-- A sequence of parts, as a chain. -/
def sequence : List Tree → Tree
  | [] => .empty
  | [part] => part
  | part :: rest => .cat part (sequence rest)

/-- A choice of parts, as a chain. -/
def choice : List Tree → Tree
  | [] => .empty
  | [part] => part
  | part :: rest => .alt part (choice rest)

/-- The chains that a tree can be a further link of. -/
inductive Chain
  | none
  | cat
  | alt
deriving DecidableEq, Repr

/-- How deeply a pattern is nested; inside a chain its further links do not count. -/
def depthIn (chain : Chain) : Tree → Nat
  | .bracketed _ inner => 1 + inner.depthIn false
  | .repetition _ _ _ inner => 1 + inner.depthIn .none
  | .group _ _ inner => 1 + inner.depthIn .none
  | .cat first rest =>
      (if chain = .cat then 0 else 1) + max (first.depthIn .none) (rest.depthIn .cat)
  | .alt first rest =>
      (if chain = .alt then 0 else 1) + max (first.depthIn .none) (rest.depthIn .alt)
  | _ => 0

/-- How deeply a pattern is nested. -/
def depth (tree : Tree) : Nat := tree.depthIn .none

end Tree
end Pattern
end TailView
