import TailView.Pattern.Expr
import TailView.Pattern.Fault
import TailView.Pattern.Tree
import TailView.Pattern.Unicode.Lookup

/-!
# Applying the flags of a pattern

Flags count from where they stand to the end of their group.  Outside the Unicode mode classes hold
bytes, and a class that would hold bytes above ASCII is refused, since it could match inside a
character.
-/

namespace TailView
namespace Pattern

/-- The flags at a place of a pattern. -/
structure Flags where
  /-- Letters stand for all their case variants. -/
  caseless : Bool := false
  /-- `^` and `$` match at line ends too. -/
  multiLine : Bool := false
  /-- The dot matches newlines too. -/
  dotAll : Bool := false
  /-- Repetitions are lazy unless marked. -/
  swapGreed : Bool := false
  /-- Classes are those of Unicode. -/
  unicode : Bool := true
  /-- A carriage return belongs to the line end. -/
  crlf : Bool := false
deriving DecidableEq, Repr

namespace Flags

/-- The flags after one change.  Blanks were settled when the pattern was read. -/
def change (flags : Flags) : Flag × Bool → Flags
  | (.caseless, on) => { flags with caseless := on }
  | (.multiLine, on) => { flags with multiLine := on }
  | (.dotAll, on) => { flags with dotAll := on }
  | (.unicode, on) => { flags with unicode := on }
  | (.crlf, on) => { flags with crlf := on }
  | (.swapGreed, on) => { flags with swapGreed := on }
  | (.verbose, _) => flags

/-- The flags after some changes. -/
def apply (flags : Flags) (changes : FlagChanges) : Flags := changes.foldl change flags

/-- A set with the case variants of its characters, where case does not count. -/
def fold (flags : Flags) (set : CharSet) : CharSet :=
  if flags.caseless then (if flags.unicode then .caseless set else .asciiCaseless set) else set

/-- A set with case variants and then, if asked for, its complement. -/
def foldAndNegate (flags : Flags) (negated : Bool) (set : CharSet) : Except Fault CharSet :=
  if !negated then .ok (flags.fold set)
  else if flags.unicode then .ok (.compl (flags.fold set))
  else .error .invalidUtf8

/-- The set of a class with a one-letter name. -/
def shorthandSet (unicode : Bool) : Shorthand → CharSet
  | .digit =>
      if unicode then
        .table ⟨(((48 :: Text.digitRunStarts).map fun first => (first, first + 9))).toArray⟩
      else .range 48 57
  | .space =>
      .union (.union (.range 9 13) (.range 32 32))
        (if unicode then
          .table ⟨#[(0x85, 0x85), (0xA0, 0xA0), (0x1680, 0x1680), (0x2000, 0x200A),
            (0x2028, 0x2029), (0x202F, 0x202F), (0x205F, 0x205F), (0x3000, 0x3000)]⟩
        else .empty)
  | .word =>
      if unicode then .table Unicode.word
      else .table ⟨#[(48, 57), (65, 90), (95, 95), (97, 122)]⟩

/-- A class with a one-letter name; it holds all case variants already. -/
def shorthand (flags : Flags) (kind : Shorthand) (negated : Bool) : Except Fault CharSet :=
  let set := shorthandSet flags.unicode kind
  if !negated then .ok set
  else if flags.unicode then .ok (.compl set)
  else .error .invalidUtf8

/-- A property of characters. -/
def property (flags : Flags) (query : Query) (negated : Bool) : Except Fault CharSet :=
  if !flags.unicode then .error .needsUnicode
  else
    match Unicode.lookUp query with
    | some set => flags.foldAndNegate negated set
    | none => .error .propertyName

/-- The code point of a character in a class. -/
def classCode (flags : Flags) (found : Literal) : Except Fault Nat :=
  if flags.unicode || found.char.toNat < 128 then .ok found.char.toNat
  else if found.asByte then .error .invalidUtf8
  else .error .needsUnicode

/-- Two sets combined. -/
def combine (operator : SetOperator) (first second : CharSet) : CharSet :=
  match operator with
  | .inter => .inter first second
  | .diff => .diff first second
  | .symmDiff => .symmDiff first second

/-- The set of what stands in brackets. -/
def classSet (flags : Flags) : ClassTree → Except Fault CharSet
  | .empty => .ok .empty
  | .literal found => do
      let code ← flags.classCode found
      return .range code code
  | .range low high => do
      let low ← flags.classCode low
      let high ← flags.classCode high
      return .range low high
  | .ascii ranges negated =>
      flags.foldAndNegate negated (.unionAll (ranges.map fun (low, high) => .range low high))
  | .property query negated => flags.property query negated
  | .shorthand kind negated => flags.shorthand kind negated
  | .bracketed negated inner => do flags.foldAndNegate negated (← flags.classSet inner)
  | .union first rest => do
      let first ← flags.classSet first
      let rest ← flags.classSet rest
      return .union first rest
  | .operation operator first second => do
      let first ← flags.classSet first
      let second ← flags.classSet second
      return combine operator (flags.fold first) (flags.fold second)

/-- The set of one written character. -/
def literal (flags : Flags) (found : Literal) : Except Fault CharSet :=
  if !flags.unicode && found.asByte && 128 ≤ found.char.toNat then .error .invalidUtf8
  else
    let set := CharSet.single found.char
    if !flags.caseless then .ok set
    else if flags.unicode then
      let hasVariants := (CaseFold.variants found.char.toNat).any (· != found.char.toNat)
      .ok (if hasVariants then flags.fold set else set)
    else .ok (if found.char.isAlpha then flags.fold set else set)

/-- The set of a dot. -/
def dot (flags : Flags) : Except Fault CharSet :=
  if !flags.unicode then .error .invalidUtf8
  else if flags.dotAll then .ok .all
  else if flags.crlf then .ok (.compl (.union (.range 10 10) (.range 13 13)))
  else .ok (.compl (.range 10 10))

/-- The condition of a place. -/
def look (flags : Flags) : Place → Look
  | .lineStart =>
      if flags.multiLine then (if flags.crlf then .crlfStart else .lineStart) else .textStart
  | .lineEnd => if flags.multiLine then (if flags.crlf then .crlfEnd else .lineEnd) else .textEnd
  | .textStart => .textStart
  | .textEnd => .textEnd
  | .wordBoundary => .wordBoundary flags.unicode
  | .notWordBoundary => .notWordBoundary flags.unicode
  | .wordStart => .wordStart flags.unicode
  | .wordEnd => .wordEnd flags.unicode
  | .wordStartHalf => .wordStartHalf flags.unicode
  | .wordEndHalf => .wordEndHalf flags.unicode

/-- The expression of a pattern, and the flags behind it. -/
def lower (flags : Flags) : Tree → Except Fault (Expr × Flags)
  | .empty => .ok (.empty, flags)
  | .flags changes => .ok (.empty, flags.apply changes)
  | .literal found => do return (.set (← flags.literal found), flags)
  | .dot => do return (.set (← flags.dot), flags)
  | .place place => .ok (.look (flags.look place), flags)
  | .property query negated => do return (.set (← flags.property query negated), flags)
  | .shorthand kind negated => do return (.set (← flags.shorthand kind negated), flags)
  | .bracketed negated inner => do
      return (.set (← flags.foldAndNegate negated (← flags.classSet inner)), flags)
  | .repetition least most lazy inner => do
      let (inner, flags) ← lower flags inner
      return (.repeated least most (lazy != flags.swapGreed) inner, flags)
  | .group name changes inner => do
      let (inner, _) ← lower (flags.apply changes) inner
      return (name.elim inner (.capture · inner), flags)
  | .cat first rest => do
      let (first, flags) ← lower flags first
      let (rest, flags) ← lower flags rest
      return (.cat first rest, flags)
  | .alt first rest => do
      let (first, flags) ← lower flags first
      let (rest, flags) ← lower flags rest
      return (.alt first rest, flags)

end Flags
end Pattern
end TailView
