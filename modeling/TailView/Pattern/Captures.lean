import TailView.Pattern.Expr

/-!
# Groups of the first match

Of the ways to match at a place the first counts: of two alternatives the earlier one comes first, a
repetition goes on as long as it can, and a lazy one stops as soon as it can.  The ways are tried in
this order, each time with what is to be matched behind, until one succeeds.  Matches further to the
left come before all others.

A round of a repetition that reads nothing, beyond those that must be, is not tried.
-/

namespace TailView
namespace Pattern

/-- A group that has been matched: where its text starts and ends. -/
structure Group where
  /-- The name of the group. -/
  name : String
  /-- The number of characters before its text. -/
  start : Nat
  /-- The number of characters up to the end of its text. -/
  finish : Nat
deriving DecidableEq, Repr

/-- How far a way of matching has come in a text. -/
structure Progress where
  /-- The last character that has been read or passed over. -/
  before : Option Char
  /-- The number of characters up to the place. -/
  position : Nat
  /-- What is behind the place. -/
  rest : List Char
  /-- The groups matched so far, the latest first. -/
  groups : List Group := []
deriving DecidableEq, Repr

/-- Where a way of matching that goes on from a place ends, if there is one. -/
abbrev Search := Progress → Option Progress

namespace Progress

/-- The place that has been reached. -/
def site (here : Progress) : Site := ⟨here.before, here.rest.head?⟩

/-- Reads one character of a set. -/
def read? (here : Progress) (chars : CharSet) : Option Progress :=
  match here.rest with
  | [] => none
  | c :: rest =>
      if chars.contains c.toNat then
        some { here with before := some c, position := here.position + 1, rest }
      else none

/-- The progress at the end of a group that started at the given place. -/
def close (here : Progress) (name : String) (start : Nat) : Progress :=
  { here with groups := ⟨name, start, here.position⟩ :: here.groups }

end Progress

namespace Search

/-- A search, and another one where it finds nothing. -/
def either (first second : Search) : Search := fun here =>
  match first here with
  | some last => some last
  | none => second here

/-- So many rounds of a part, and then `onward`. -/
def times (part : Search → Search) (onward : Search) : Nat → Search
  | 0 => onward
  | count + 1 => part (times part onward count)

/-- Up to so many rounds of a part, and then `onward`. -/
def upTo (lazy : Bool) (part : Search → Search) (onward : Search) : Nat → Search
  | 0 => onward
  | count + 1 => fun here =>
      let again := part fun there =>
        if here.position < there.position then upTo lazy part onward count there else none
      if lazy then either onward again here else either again onward here

end Search

namespace Expr

/-- Matches an expression, and then goes on with `onward`; the ways to match are tried in order. -/
def attempt : Expr → Search → Search
  | .empty, onward, here => onward here
  | .set chars, onward, here => (here.read? chars).bind onward
  | .look condition, onward, here => if condition.holds here.site then onward here else none
  | .cat first second, onward, here => first.attempt (second.attempt onward) here
  | .alt first second, onward, here =>
      Search.either (first.attempt onward) (second.attempt onward) here
  | .repetition least most lazy inner, onward, here =>
      let further : Search := fun there =>
        let bound := (most.map (· - least)).getD there.rest.length
        Search.upTo lazy inner.attempt onward bound there
      Search.times inner.attempt further least here
  | .capture name inner, onward, here =>
      inner.attempt (fun there => onward (there.close name here.position)) here

/-- The end of the first match at the leftmost place that has one, from a place on. -/
def firstMatch? (expr : Expr) (before : Option Char) (position : Nat) :
    List Char → Option Progress
  | [] => expr.attempt some ⟨before, position, [], []⟩
  | c :: rest =>
      match expr.attempt some ⟨before, position, c :: rest, []⟩ with
      | some last => some last
      | none => expr.firstMatch? (some c) (position + 1) rest

end Expr

/-- What the groups of a pattern matched in a text. -/
structure Captures where
  /-- The whole text. -/
  text : List Char
  /-- The groups, the latest first. -/
  groups : List Group
deriving DecidableEq, Repr

/-- The text of the group with a name, if the group took part in the match. -/
def Captures.text? (captures : Captures) (name : String) : Option (List Char) :=
  (captures.groups.find? fun group => group.name = name).map fun group =>
    (captures.text.drop group.start).take (group.finish - group.start)

end Pattern
end TailView
