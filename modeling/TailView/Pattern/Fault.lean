/-!
# Faults of patterns

Why a text is no pattern.  Every fault has one fixed wording.
-/

namespace TailView
namespace Pattern

/-- Why a text is no pattern. -/
inductive Fault
  | groupUnclosed
  | groupUnopened
  | groupName
  | lookAround
  | flagUnknown
  | flagRepeated
  | flagDangling
  | repetitionMissing
  | repetitionCount
  | repetitionRange
  | escapeAtEnd
  | escapeUnknown
  | backreference
  | hexadecimal
  | boundaryName
  | classUnclosed
  | classRange
  | classItem
  | propertyName
  | needsUnicode
  | invalidUtf8
  | tooDeep
  | tooLarge
deriving DecidableEq, Repr

namespace Fault

/-- Every fault once. -/
def all : List Fault :=
  [.groupUnclosed, .groupUnopened, .groupName, .lookAround, .flagUnknown, .flagRepeated,
    .flagDangling, .repetitionMissing, .repetitionCount, .repetitionRange, .escapeAtEnd,
    .escapeUnknown, .backreference, .hexadecimal, .boundaryName, .classUnclosed, .classRange,
    .classItem, .propertyName, .needsUnicode, .invalidUtf8, .tooDeep, .tooLarge]

/-- What the user is told about a fault. -/
def message : Fault → String
  | .groupUnclosed => "a group is not closed"
  | .groupUnopened => "a group is closed that was not opened"
  | .groupName => "the name of a group is missing, not well formed or used twice"
  | .lookAround => "look-around is not supported"
  | .flagUnknown => "a flag is missing or not known"
  | .flagRepeated => "a flag or its negation is given twice"
  | .flagDangling => "a negation of flags is followed by no flag"
  | .repetitionMissing => "a repetition has nothing to repeat"
  | .repetitionCount => "the count of a repetition is not well formed"
  | .repetitionRange => "the least count of a repetition is above the greatest"
  | .escapeAtEnd => "the pattern ends inside an escape"
  | .escapeUnknown => "an escape is not known"
  | .backreference => "back-references are not supported"
  | .hexadecimal => "a hexadecimal escape denotes no character"
  | .boundaryName => "the name of a word boundary is not known"
  | .classUnclosed => "a character class is not closed"
  | .classRange => "a range of characters has wrong ends"
  | .classItem => "an escape is not allowed in a character class"
  | .propertyName => "a property of characters is not known"
  | .needsUnicode => "a class of characters needs the Unicode mode"
  | .invalidUtf8 => "the pattern can match text that is not valid UTF-8"
  | .tooDeep => "the pattern is nested too deeply"
  | .tooLarge => "the compiled pattern is too large"

theorem mem_all (fault : Fault) : fault ∈ all := by cases fault <;> decide

end Fault
end Pattern
end TailView
