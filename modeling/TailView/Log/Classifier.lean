import TailView.Log.Entry
import TailView.Log.Request

/-!
# Classification of lines

Every line becomes one entry.  Three things are carried from line to line: the section that is
open, what the stream has shown itself to be, and the requests that have no answer yet.  The rules
are tried in this order: a continuation line belongs to the open section; every other line closes
it; a marker opens a section and makes the stream an error log; a request is looked for unless the
stream is an error log; an answer is looked for always; what remains is plain.
-/

namespace TailView

/-- Which markers open a section. -/
inductive SectionRule
  /-- Only the marker of errors. -/
  | errorOnly
  /-- The marker of any severity. -/
  | multiLevel
deriving DecidableEq, Repr

namespace SectionRule

/-- The name of a rule. -/
def name : SectionRule → String
  | .errorOnly => "error-only"
  | .multiLevel => "multi-level"

/-- The severity of the section that a line opens, if it opens one. -/
def marker? (rule : SectionRule) (line : List Char) : Option Severity :=
  match rule with
  | .errorOnly => if Severity.error.hasMarker line then some .error else none
  | .multiLevel => Severity.firstMarker? line

end SectionRule

/-- What a stream has shown itself to be. -/
inductive StreamKind
  | unknown
  | error
  | request
deriving DecidableEq, Repr

/-- The name of a kind of stream. -/
def StreamKind.name : StreamKind → String
  | .unknown => "unknown"
  | .error => "error"
  | .request => "request"

/-- Whether a line continues an open section: it is empty, or starts with a tab or an ASCII
digit. -/
def isContinuation : List Char → Bool
  | [] => true
  | c :: _ => c = '\t' || c.isDigit

/-- The requests without an answer: the number of each and its entry.  No number occurs twice. -/
abbrev Unanswered := List (Nat × EntryId)

namespace Unanswered

/-- How many requests are kept waiting. -/
def limit : Nat := 4096

/-- The requests without the one of a given number. -/
def remove (requests : Unanswered) (number : Nat) : Unanswered :=
  requests.filter fun request => request.1 ≠ number

/-- The entry of the waiting request with a given number. -/
def find? (requests : Unanswered) (number : Nat) : Option EntryId :=
  (List.find? (fun request => request.1 = number) requests).map (·.2)

/-- Of two requests the one whose entry came first. -/
def older (first second : Nat × EntryId) : Nat × EntryId :=
  if second.2 < first.2 then second else first

/-- The request whose entry came first. -/
def oldest? : Unanswered → Option (Nat × EntryId)
  | [] => none
  | first :: rest => some (rest.foldl older first)

/-- The requests without the oldest one if there are too many. -/
def bound (requests : Unanswered) : Unanswered :=
  if limit < requests.length then
    match requests.oldest? with
    | some oldest => requests.remove oldest.1
    | none => requests
  else requests

/-- The requests with a new one, which replaces an older one of the same number. -/
def remember (requests : Unanswered) (number : Nat) (entry : EntryId) : Unanswered :=
  bound ((number, entry) :: requests.remove number)

end Unanswered

/-- What is carried from line to line. -/
structure Classifier where
  /-- Which markers open a section. -/
  rule : SectionRule
  /-- The id for the next entry. -/
  nextId : EntryId := 0
  /-- The section that is open. -/
  openSection : Option EntryId := none
  /-- What the stream has shown itself to be. -/
  stream : StreamKind := .unknown
  /-- The requests that have no answer yet. -/
  unanswered : Unanswered := []
deriving DecidableEq

namespace Classifier

/-- The open section that a line continues. -/
def continued? (classifier : Classifier) (line : String) : Option EntryId :=
  if isContinuation line.toList then classifier.openSection else none

/-- The entry and the state for a line that belongs to no open section. -/
def classifyFresh (classifier : Classifier) (line : String) : Entry × Classifier :=
  let id := classifier.nextId
  let next := { classifier with nextId := id + 1, openSection := none }
  let cs := line.toList
  match classifier.rule.marker? cs with
  | some severity =>
      ({ id, kind := .sectionHead, severity := some severity, text := line },
        { next with openSection := some id, stream := .error })
  | none =>
      match if classifier.stream = .error then none else Request.start? cs with
      | some start =>
          ({ id, kind := .requestStart, text := line, correlationId := some start.id },
            { next with
              stream := .request, unanswered := classifier.unanswered.remember start.id id })
      | none =>
          match Request.end? cs with
          | some answer =>
              ({ id, kind := .requestEnd, text := line, correlationId := some answer.id,
                 counterpart := classifier.unanswered.find? answer.id },
                { next with unanswered := classifier.unanswered.remove answer.id })
          | none => ({ id, kind := .plain, text := line }, next)

/-- The entry of one complete line.  A continuation has the id of its section and holds only the
new line. -/
def classify (classifier : Classifier) (line : String) : Entry × Classifier :=
  match classifier.continued? line with
  | some id => ({ id, kind := .continuation, text := line }, classifier)
  | none => classifier.classifyFresh line

/-- An entry for a message of the viewer itself. -/
def info (classifier : Classifier) (text : String) : Entry × Classifier :=
  ({ id := classifier.nextId, kind := .info, text },
    { classifier with nextId := classifier.nextId + 1 })

/-- The state for a new stream; the ids go on. -/
def reset (classifier : Classifier) : Classifier :=
  { rule := classifier.rule, nextId := classifier.nextId }

end Classifier
end TailView
