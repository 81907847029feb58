import TailView.Log.Request
import TailView.Proofs.Pattern.Captures
import TailView.Proofs.Pattern.RangeTable

/-!
# What the patterns for requests and answers match

A request is a number in brackets, an arrow, a method and a blank; an answer has the other arrow and
a status.  The patterns say so with a lazy prefix and greedy runs.  What follows a run never
starts with a character of the run, so behind the prefix there is at most one way to match, and the
prefix stops at the first place where there is one.  So the groups hold the number and the word at
the leftmost place of the line with the shape.
-/

namespace TailView
namespace Request

open Pattern Pattern.Progress Text

variable {left right text digits word rest line : List Char} {c : Char} {lazy : Bool}
  {groups : List Group} {last : Progress}

/-! ## Shapes -/

/-- At least one character, and all of a kind. -/
def IsRun (p : Char → Bool) (run : List Char) : Prop := run ≠ [] ∧ ∀ c ∈ run, p c = true

/-- A method: capital letters. -/
def IsMethod (word : List Char) : Prop := IsRun Char.isUpper word

/-- A status: three decimal digits. -/
def IsStatus (word : List Char) : Prop := word.length = 3 ∧ ∀ c ∈ word, isDecimalDigit c = true

/-- A text starts with decimal digits in brackets, an arrow, a word and a blank. -/
def StartsWith
    (arrow : String)
    (IsWord : List Char → Prop)
    (found : List Char × List Char)
    (text : List Char) : Prop :=
  IsRun isDecimalDigit found.1 ∧ IsWord found.2 ∧
    ∃ rest, text = '[' :: (found.1 ++ ']' :: (arrow.toList ++ (found.2 ++ ' ' :: rest)))

/-- A text starts like a request, with the given digits and method. -/
def StartsRequest : List Char × List Char → List Char → Prop := StartsWith " -> " IsMethod

/-- A text starts like an answer, with the given digits and status. -/
def StartsAnswer : List Char × List Char → List Char → Prop := StartsWith " <- " IsStatus

/-- What a line has at the leftmost place where it goes on in some way. -/
def Leftmost {α : Type} (Starts : α → List Char → Prop) (line : List Char) (found : α) : Prop :=
  ∃ before after, line = before ++ after ∧ Starts found after ∧
    ∀ earlier later, line = earlier ++ later → earlier.length < before.length →
      ∀ other, ¬Starts other later

/-! ## What the patterns say -/

/-- All characters but the newline. -/
def unbroken : CharSet := .compl (.range 10 10)

/-- The characters of `\d`. -/
def digitSet : CharSet := Flags.shorthandSet true .digit

theorem contains_unbroken : unbroken.contains c.toNat = true ↔ c ≠ '\n' := by
  rw [unbroken, contains_compl_iff, ← show CharSet.single '\n' = .range 10 10 from rfl,
    contains_single_iff]

/-- What one of the two patterns has of its own: the arrow, and a run of characters as the word. -/
structure Shape (IsWord : List Char → Prop) where
  /-- The arrow between number and word. -/
  arrow : String
  /-- The name of the group with the word. -/
  kind : String
  /-- The characters of words. -/
  chars : CharSet
  /-- The least length of a word. -/
  least : Nat
  /-- The greatest length of a word. -/
  most : Option Nat
  /-- Words are what the pattern says. -/
  matches_iff : ∀ left text right : List Char,
    (Expr.repetition least most false (.set chars)).Matches left text right ↔ IsWord text
  most_ne : most ≠ some 0
  kind_ne_id : kind ≠ "id"
  kind_ne_rest : kind ≠ "rest"
  newline_not_mem_arrow : '\n' ∉ arrow.toList
  contains_blank : chars.contains ' '.toNat = false
  contains_newline : chars.contains '\n'.toNat = false

namespace Shape

variable {IsWord : List Char → Prop} (shape : Shape IsWord)

/-- The groups behind the prefix: a number in brackets, an arrow, a word, and the rest. -/
def bodyTree (word : Pattern.Tree) : Pattern.Tree :=
  .word ['['] <|
    .cat (.group (some "id") [] (.repetition 1 none false (.shorthand .digit false))) <|
    .word (']' :: shape.arrow.toList) <|
    .cat (.group (some shape.kind) [] (.repetition shape.least shape.most false word)) <|
    .word [' '] <|
    .cat (.group (some "rest") [] (.repetition 0 none false .dot)) (.place .lineEnd)

/-- What the pattern says. -/
def tree (word : Pattern.Tree) : Pattern.Tree :=
  .cat (.place .lineStart) <|
    .cat (.group (some "prefix") [] (.repetition 0 none true .dot)) (shape.bodyTree word)

/-- As `bodyTree`, with the sets of characters. -/
def bodyExpr : Expr :=
  .word ['['] <| .cat (.capture "id" (.repetition 1 none false (.set digitSet))) <|
    .word (']' :: shape.arrow.toList) <|
    .cat (.capture shape.kind (.repetition shape.least shape.most false (.set shape.chars))) <|
    .word [' '] <|
    .cat (.capture "rest" (.repetition 0 none false (.set unbroken))) (.look .textEnd)

/-- As `tree`, with the sets of characters. -/
def expr : Expr :=
  .cat (.look .textStart) <|
    .cat (.capture "prefix" (.repetition 0 none true (.set unbroken))) shape.bodyExpr

theorem denotes_tree {word : Pattern.Tree} (denotes : word.Denotes (.set shape.chars)) :
    (shape.tree word).Denotes shape.expr := by
  have dot : Tree.dot.Denotes (.set unbroken) := rfl
  have digit : (Tree.shorthand .digit false).Denotes (.set digitSet) := rfl
  have start : (Tree.place .lineStart).Denotes (.look .textStart) := rfl
  have finish : (Tree.place .lineEnd).Denotes (.look .textEnd) := rfl
  have dots : ∀ lazy, (Tree.repetition 0 none lazy .dot).Denotes
      (.repetition 0 none lazy (.set unbroken)) := fun _ => dot.run nofun
  have digits : (Tree.repetition 1 none false _).Denotes (.repetition 1 none false _) :=
    digit.run nofun
  have words : (Tree.repetition shape.least shape.most false word).Denotes
      (.repetition shape.least shape.most false _) := denotes.run shape.most_ne
  have rest := ((dots false).capture "rest").cat finish
  exact start.cat (((dots true).capture "prefix").cat
    ((digits.capture "id").cat ((words.capture shape.kind).cat rest.word).word).word)

/-! ## What the groups match -/

theorem matches_unbroken_iff :
    (Expr.repetition 0 none lazy (.set unbroken)).Matches left text right ↔ '\n' ∉ text := by
  simp only [Expr.matches_run_iff, contains_unbroken, Nat.zero_le, true_and]
  constructor
  · rintro ⟨-, clean⟩ member
    exact clean _ member rfl
  · refine fun absent => ⟨nofun, ?_⟩
    rintro c member rfl
    exact absent member

theorem matches_digits_iff :
    (Expr.repetition 1 none false (.set digitSet)).Matches left text right ↔
      IsRun isDecimalDigit text := by
  rw [Expr.matches_run_iff, IsRun, ← List.length_pos_iff, digitSet]
  simp only [contains_digits]
  exact and_congr_right fun _ => and_iff_right nofun

include shape in
theorem newline_not_mem_word (isWord : IsWord word) : '\n' ∉ word := by
  intro member
  have matched := (shape.matches_iff [] word []).mpr isWord
  have contained := (Expr.matches_run_iff.mp matched).2.2 _ member
  rw [shape.contains_newline] at contained
  cases contained

/-- The text of a number in brackets, an arrow, a word, and the rest. -/
def bodyText (digits word rest : List Char) : List Char :=
  '[' :: (digits ++ ']' :: (shape.arrow.toList ++ (word ++ ' ' :: rest)))

/-- The groups of such a text. -/
def bodyGroups (left digits word rest : List Char) : List Group :=
  let beforeWord := left ++ ['['] ++ digits ++ ']' :: shape.arrow.toList
  [.matched "rest" (beforeWord ++ word ++ [' ']) rest, .matched shape.kind beforeWord word,
    .matched "id" (left ++ ['[']) digits]

theorem append_bodyText (left digits word rest : List Char) :
    left ++ shape.bodyText digits word rest =
      left ++ ['['] ++ digits ++ ']' :: shape.arrow.toList ++ word ++ [' '] ++ rest := by
  simp [bodyText]

/-- Behind the prefix there is one way to match only. -/
theorem attempt_bodyExpr_iff :
    shape.bodyExpr.attempt some (reached left right groups) = some last ↔
      ∃ digits word rest, right = shape.bodyText digits word rest ∧ IsRun isDecimalDigit digits ∧
        IsWord word ∧ '\n' ∉ rest ∧
        last = reached (left ++ right) [] (shape.bodyGroups left digits word rest ++ groups) := by
  have bracketApart : digitSet.contains ']'.toNat = false := by decide +kernel
  simp only [bodyExpr, Expr.attempt_word_iff,
    Expr.attempt_capture_run_iff (Expr.stops_word bracketApart),
    Expr.attempt_capture_run_iff (Expr.stops_word shape.contains_blank),
    Expr.attempt_capture_run_iff Expr.stops_textEnd, Expr.attempt_textEnd_iff, matches_digits_iff,
    shape.matches_iff, matches_unbroken_iff]
  constructor
  · rintro ⟨_, rfl, digits, _, rfl, isNumber, _, rfl, word, _, rfl, isWord, _, rfl, rest, _, rfl,
      clean, rfl, reaches⟩
    have same :
        ['['] ++ (digits ++ (']' :: shape.arrow.toList ++ (word ++ ([' '] ++ (rest ++ []))))) =
          shape.bodyText digits word rest := by simp [bodyText]
    rw [← append_bodyText] at reaches
    rw [same]
    exact ⟨digits, word, rest, rfl, isNumber, isWord, clean, (Option.some.inj reaches).symm⟩
  · rintro ⟨digits, word, rest, rfl, isNumber, isWord, clean, rfl⟩
    refine ⟨_, rfl, digits, _, rfl, isNumber, _, rfl, word, _, rfl, isWord, _, rfl, rest, [],
      (List.append_nil rest).symm, clean, rfl, ?_⟩
    rw [append_bodyText]
    rfl

/-- In a line without newlines the search fails only where nothing has the shape. -/
theorem attempt_bodyExpr_eq_none_iff (clean : '\n' ∉ right) :
    shape.bodyExpr.attempt some (reached left right groups) = none ↔
      ∀ found, ¬StartsWith shape.arrow IsWord found right := by
  rw [Option.eq_none_iff_forall_ne_some]
  constructor
  · rintro nothing ⟨digits, word⟩ ⟨isNumber, isWord, rest, rfl⟩
    have cleanRest : '\n' ∉ rest := fun member => clean (by simp [member])
    exact nothing _ (shape.attempt_bodyExpr_iff.mpr
      ⟨digits, word, rest, rfl, isNumber, isWord, cleanRest, rfl⟩)
  · intro nothing last found
    obtain ⟨digits, word, rest, rfl, isNumber, isWord, -, -⟩ := shape.attempt_bodyExpr_iff.mp found
    exact nothing (digits, word) ⟨isNumber, isWord, rest, rfl⟩

theorem newline_not_mem_bodyText
    (isNumber : IsRun isDecimalDigit digits)
    (isWord : IsWord word)
    (clean : '\n' ∉ rest) :
    '\n' ∉ shape.bodyText digits word rest := by
  have cleanDigits : '\n' ∉ digits := fun member => absurd (isNumber.2 _ member) (by decide)
  have cleanWord := shape.newline_not_mem_word isWord
  simp [bodyText, cleanDigits, shape.newline_not_mem_arrow, cleanWord, clean]

/-- The first match of the pattern is the one at the leftmost place with the shape. -/
theorem firstMatch?_expr_eq_some_iff :
    shape.expr.firstMatch? none 0 line = some last ↔
      '\n' ∉ line ∧ ∃ before digits word rest, line = before ++ shape.bodyText digits word rest ∧
        IsRun isDecimalDigit digits ∧ IsWord word ∧
        (∀ earlier later, line = earlier ++ later → earlier.length < before.length →
          ∀ other, ¬StartsWith shape.arrow IsWord other later) ∧
        last = reached line []
          (shape.bodyGroups before digits word rest ++ [.matched "prefix" [] before]) := by
  rw [expr, Expr.firstMatch?_textStart, Expr.attempt_capture_lazy_run_iff]
  simp only [attempt_bodyExpr_iff, contains_unbroken, List.nil_append]
  constructor
  · rintro ⟨before, _, rfl,
      ⟨cleanBefore, digits, word, rest, rfl, isNumber, isWord, clean, rfl⟩, first⟩
    have cleanLine : '\n' ∉ before ++ shape.bodyText digits word rest :=
      fun member => (List.mem_append.mp member).elim (fun inBefore => cleanBefore _ inBefore rfl)
        (shape.newline_not_mem_bodyText isNumber isWord clean)
    refine ⟨cleanLine, before, digits, word, rest, rfl, isNumber, isWord,
      fun earlier later same shorter => ?_, rfl⟩
    have cleanLater : '\n' ∉ later := fun member =>
      cleanLine (same ▸ List.mem_append_right earlier member)
    exact (shape.attempt_bodyExpr_eq_none_iff cleanLater).mp (first earlier later same shorter)
  · rintro ⟨cleanLine, before, digits, word, rest, rfl, isNumber, isWord, first, rfl⟩
    have cleanRest : '\n' ∉ rest := fun member => cleanLine (by simp [bodyText, member])
    refine ⟨before, _, rfl, ⟨?_, digits, word, rest, rfl, isNumber, isWord, cleanRest, rfl⟩,
      fun earlier later same shorter => ?_⟩
    · rintro c member rfl
      exact cleanLine (List.mem_append_left _ member)
    · have cleanLater : '\n' ∉ later := fun member =>
        cleanLine (same ▸ List.mem_append_right earlier member)
      exact (shape.attempt_bodyExpr_eq_none_iff cleanLater).mpr (first earlier later same shorter)

theorem text?_id (before digits word rest : List Char) (groups : List Group) :
    Captures.text? ⟨before ++ shape.bodyText digits word rest,
      shape.bodyGroups before digits word rest ++ groups⟩ "id" = some digits := by
  refine Captures.text?_of_find? (before ++ ['[']) digits
    (']' :: (shape.arrow.toList ++ (word ++ ' ' :: rest))) ?_ (by simp [bodyText])
  simp [bodyGroups, Group.matched, shape.kind_ne_id]

theorem text?_kind (before digits word rest : List Char) (groups : List Group) :
    Captures.text? ⟨before ++ shape.bodyText digits word rest,
      shape.bodyGroups before digits word rest ++ groups⟩ shape.kind = some word := by
  refine Captures.text?_of_find? (before ++ ['['] ++ digits ++ ']' :: shape.arrow.toList) word
    (' ' :: rest) ?_ (by simp [bodyText])
  simp [bodyGroups, Group.matched, shape.kind_ne_rest.symm]

/-- The groups hold the number and the word at the leftmost place with the shape. -/
theorem exists_captures?_iff
    {compiled : Compiled}
    (same : compiled.expr = shape.expr)
    (line digits word : List Char) :
    (∃ captures, compiled.captures? line = some captures ∧ captures.text? "id" = some digits ∧
        captures.text? shape.kind = some word) ↔
      '\n' ∉ line ∧ Leftmost (StartsWith shape.arrow IsWord) line (digits, word) := by
  simp only [Compiled.captures?, same, Option.map_eq_some_iff, firstMatch?_expr_eq_some_iff]
  constructor
  · rintro ⟨_, ⟨_, ⟨clean, before, digits, word, rest, rfl, isNumber, isWord, first, rfl⟩, rfl⟩,
      isId, isKind⟩
    cases (shape.text?_id before digits word rest _).symm.trans isId
    cases (shape.text?_kind before digits word rest _).symm.trans isKind
    exact ⟨clean, before, _, rfl, ⟨isNumber, isWord, rest, rfl⟩, first⟩
  · rintro ⟨clean, before, _, rfl, ⟨isNumber, isWord, rest, rfl⟩, first⟩
    exact ⟨_, ⟨_, ⟨clean, before, digits, word, rest, rfl, isNumber, isWord, first, rfl⟩, rfl⟩,
      shape.text?_id .., shape.text?_kind ..⟩

/-- What the leftmost place of a line holds is unique. -/
theorem leftmost_unique
    {found other : List Char × List Char}
    (clean : '\n' ∉ line)
    (leftmost : Leftmost (StartsWith shape.arrow IsWord) line found)
    (leftmostOther : Leftmost (StartsWith shape.arrow IsWord) line other) :
    found = other := by
  let compiled : Compiled := ⟨shape.expr, .ofExpr shape.expr⟩
  have same : compiled.expr = shape.expr := rfl
  obtain ⟨captures, isCaptures, isId, isKind⟩ :=
    (shape.exists_captures?_iff same line _ _).mpr ⟨clean, leftmost⟩
  obtain ⟨_, isOther, isOtherId, isOtherKind⟩ :=
    (shape.exists_captures?_iff same line _ _).mpr ⟨clean, leftmostOther⟩
  cases isCaptures.symm.trans isOther
  exact Prod.ext (Option.some.inj (isId.symm.trans isOtherId))
    (Option.some.inj (isKind.symm.trans isOtherKind))

/-- The pattern is found where something has the shape. -/
theorem isMatch_iff
    {compiled : Compiled}
    (isCompiled : Compiled.ofExpr shape.expr = .ok compiled)
    (s : String) :
    compiled.isMatch s = true ↔
      '\n' ∉ s.toList ∧ ∃ found, Leftmost (StartsWith shape.arrow IsWord) s.toList found := by
  have same : compiled.expr = shape.expr := by rw [Compiled.eq_of_ofExpr isCompiled]
  rw [← Compiled.captures?_isSome_iff isCompiled, Option.isSome_iff_exists]
  constructor
  · rintro ⟨captures, isCaptures⟩
    obtain ⟨last, isLast, -⟩ := Option.map_eq_some_iff.mp isCaptures
    rw [same, firstMatch?_expr_eq_some_iff] at isLast
    obtain ⟨clean, before, digits, word, rest, isLine, isNumber, isWord, first, -⟩ := isLast
    exact ⟨clean, (digits, word), before, _, isLine, ⟨isNumber, isWord, rest, rfl⟩, first⟩
  · rintro ⟨clean, ⟨digits, word⟩, leftmost⟩
    obtain ⟨captures, isCaptures, -⟩ :=
      (shape.exists_captures?_iff same _ _ _).mpr ⟨clean, leftmost⟩
    exact ⟨captures, isCaptures⟩

end Shape

/-! ## The two patterns -/

/-- The shape of requests. -/
def requestShape : Shape IsMethod where
  arrow := " -> "
  kind := "method"
  chars := .range 65 90
  least := 1
  most := none
  matches_iff := by
    intro left text right
    rw [Expr.matches_run_iff, IsMethod, IsRun, ← List.length_pos_iff]
    refine and_congr_right fun _ => (and_iff_right nofun).trans ?_
    refine forall_congr' fun c => forall_congr' fun _ => ?_
    rw [contains_range_iff]
    exact decide_eq_true_iff.symm
  most_ne := nofun
  kind_ne_id := by decide
  kind_ne_rest := by decide
  newline_not_mem_arrow := by decide
  contains_blank := rfl
  contains_newline := rfl

/-- The shape of answers. -/
def answerShape : Shape IsStatus where
  arrow := " <- "
  kind := "status"
  chars := digitSet
  least := 3
  most := some 3
  matches_iff := by
    intro left text right
    rw [Expr.matches_run_iff, IsStatus, ← and_assoc, digitSet]
    simp only [contains_digits]
    refine and_congr_left fun _ => ⟨?_, ?_⟩
    · rintro ⟨atLeast, atMost⟩
      exact Nat.le_antisymm (atMost 3 rfl) atLeast
    · intro size
      rw [size]
      exact ⟨Nat.le_refl 3, fun bound _ => Nat.le_max_left 3 bound⟩
  most_ne := by decide
  kind_ne_id := by decide
  kind_ne_rest := by decide
  newline_not_mem_arrow := by decide
  contains_blank := by decide +kernel
  contains_newline := by decide +kernel

theorem small_requestShape : requestShape.expr.weight ≤ Expr.maxWeight := by decide +kernel

theorem small_answerShape : answerShape.expr.weight ≤ Expr.maxWeight := by decide +kernel

theorem startCompiled_eq :
    startCompiled = .ok ⟨requestShape.expr, .ofExpr requestShape.expr⟩ := by
  have reads : Parser.read startPattern.toList =
      .ok (requestShape.tree (.bracketed false (.range { char := 'A' } { char := 'Z' }))) := rfl
  have capital : (Tree.bracketed false (.range { char := 'A' } { char := 'Z' })).Denotes
      (.set requestShape.chars) := rfl
  exact (requestShape.denotes_tree capital).ofPattern_eq reads small_requestShape

theorem endCompiled_eq :
    endCompiled = .ok ⟨answerShape.expr, .ofExpr answerShape.expr⟩ := by
  have reads : Parser.read endPattern.toList =
      .ok (answerShape.tree (.shorthand .digit false)) := rfl
  have digit : (Tree.shorthand .digit false).Denotes (.set answerShape.chars) := rfl
  exact (answerShape.denotes_tree digit).ofPattern_eq reads small_answerShape

end Request
end TailView
