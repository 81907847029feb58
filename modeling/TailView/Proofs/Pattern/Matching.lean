import TailView.Pattern.Compiled

/-!
# What a pattern matches

An expression matches texts at places: what is before and behind a text counts for the conditions on
its ends.  The search moves all marks of an expression at once.  A mark stands for the ways of
matching that have come so far, so the search finds a match exactly if some part of the text is
matched where it stands.
-/

namespace TailView
namespace Pattern

variable {left text right : List Char} {c : Char}

/-! ## Texts at places -/

/-- A property of texts that may depend on what is before and behind them. -/
abbrev Span := List Char → List Char → List Char → Prop

/-- The place between two texts. -/
def between (left right : List Char) : Site := ⟨left.getLast?, right.head?⟩

/-- Only the next character counts of what is behind a place. -/
theorem between_cons (left : List Char) (c : Char) (rest other : List Char) :
    between left (c :: rest) = between left (c :: other) :=
  rfl

namespace Span

variable {first second : Span}

/-- A text in two parts, one property for each. -/
def Then (first second : Span) : Span := fun left text right =>
  ∃ start rest, text = start ++ rest ∧ first left start (rest ++ right) ∧
    second (left ++ start) rest right

/-- A text in so many parts, the same property for all of them. -/
def Times (part : Span) : Nat → Span
  | 0 => fun _ text _ => text = []
  | count + 1 => Then part (Times part count)

/-- A text in some parts, at most so many if there is a bound, the same property for all of them. -/
def Several (part : Span) (most : Option Nat) : Span := fun left text right =>
  ∃ count, (∀ bound ∈ most, count ≤ bound) ∧ Times part count left text right

theorem then_nil_iff :
    Then first second left [] right ↔ first left [] right ∧ second left [] right := by
  constructor
  · rintro ⟨start, rest, same, matchesStart, matchesRest⟩
    obtain ⟨rfl, rfl⟩ := List.append_eq_nil_iff.mp same.symm
    rw [List.append_nil] at matchesRest
    exact ⟨matchesStart, matchesRest⟩
  · rintro ⟨matchesStart, matchesRest⟩
    refine ⟨[], [], rfl, matchesStart, ?_⟩
    rwa [List.append_nil]

/-- The first character is in the first part, unless that one is empty. -/
theorem then_cons_iff :
    Then first second left (c :: text) right ↔
      (first left [] (c :: text ++ right) ∧ second left (c :: text) right) ∨
        ∃ start rest, text = start ++ rest ∧ first left (c :: start) (rest ++ right) ∧
          second (left ++ [c] ++ start) rest right := by
  constructor
  · rintro ⟨start, rest, same, matchesStart, matchesRest⟩
    cases start with
    | nil =>
        rw [List.nil_append] at same
        subst same
        rw [List.append_nil] at matchesRest
        exact .inl ⟨matchesStart, matchesRest⟩
    | cons d start =>
        obtain ⟨rfl, rfl⟩ := List.cons.inj same
        refine .inr ⟨start, rest, rfl, matchesStart, ?_⟩
        rwa [List.append_assoc, List.singleton_append]
  · rintro (⟨matchesStart, matchesRest⟩ | ⟨start, rest, rfl, matchesStart, matchesRest⟩)
    · refine ⟨[], c :: text, rfl, matchesStart, ?_⟩
      rwa [List.append_nil]
    · refine ⟨c :: start, rest, rfl, matchesStart, ?_⟩
      rwa [List.append_assoc, List.singleton_append] at matchesRest

theorem then_assoc (first second third : Span) :
    Then (Then first second) third = Then first (Then second third) := by
  funext left text right
  refine propext ⟨?_, ?_⟩
  · rintro ⟨_, rest, rfl, ⟨start, middle, rfl, matchesStart, matchesMiddle⟩, matchesRest⟩
    refine ⟨start, middle ++ rest, List.append_assoc .., ?_, middle, rest, rfl, matchesMiddle, ?_⟩
    · rwa [List.append_assoc]
    · rwa [List.append_assoc]
  · rintro ⟨start, _, rfl, matchesStart, middle, rest, rfl, matchesMiddle, matchesRest⟩
    refine ⟨start ++ middle, rest, (List.append_assoc ..).symm,
      ⟨start, middle, rfl, ?_, matchesMiddle⟩, ?_⟩
    · rwa [List.append_assoc] at matchesStart
    · rwa [List.append_assoc] at matchesRest

theorem times_zero_then (part rest : Span) : Then (Times part 0) rest = rest := by
  funext left text right
  refine propext ⟨?_, fun matchesRest => ⟨[], text, rfl, rfl, ?_⟩⟩
  · rintro ⟨_, rest, rfl, rfl, matchesRest⟩
    rwa [List.append_nil] at matchesRest
  · rwa [List.append_nil]

theorem times_add (part : Span) (count more : Nat) :
    Times part (count + more) = Then (Times part count) (Times part more) := by
  induction count with
  | zero => rw [Nat.zero_add, times_zero_then]
  | succ count inductionHypothesis =>
      rw [Nat.succ_add, Times, inductionHypothesis, Times, then_assoc]

/-- Parts that are empty can be left out, up to the first one that is not. -/
theorem exists_times_cons_iff {part : Span} :
    (∃ count, Times part count left (c :: text) right) ↔
      ∃ start rest, text = start ++ rest ∧ part left (c :: start) (rest ++ right) ∧
        ∃ count, Times part count (left ++ [c] ++ start) rest right := by
  constructor
  · rintro ⟨count, repeated⟩
    induction count with
    | zero => cases repeated
    | succ count inductionHypothesis =>
        rcases then_cons_iff.mp repeated with
          ⟨-, others⟩ | ⟨start, rest, rfl, matchesStart, others⟩
        · exact inductionHypothesis others
        · exact ⟨start, rest, rfl, matchesStart, count, others⟩
  · rintro ⟨start, rest, rfl, matchesStart, count, others⟩
    exact ⟨count + 1, then_cons_iff.mpr (.inr ⟨start, rest, rfl, matchesStart, others⟩)⟩

end Span

open Pattern.Span

/-! ## Expressions -/

/-- The texts that an expression matches; greed and groups do not count. -/
def Expr.Matches : Expr → Span
  | .empty => fun _ text _ => text = []
  | .set chars => fun _ text _ => ∃ c, text = [c] ∧ chars.contains c.toNat = true
  | .look condition =>
      fun left text right => text = [] ∧ condition.holds (between left right) = true
  | .cat first second => Then first.Matches second.Matches
  | .alt first second => fun left text right =>
      first.Matches left text right ∨ second.Matches left text right
  | .repetition least most _ inner => fun left text right =>
      ∃ count, least ≤ count ∧ (∀ bound ∈ most, count ≤ max least bound) ∧
        Times inner.Matches count left text right
  | .capture _ inner => inner.Matches

/-- The parts that must be come first. -/
theorem Expr.matches_repetition
    (least : Nat)
    (most : Option Nat)
    (lazy : Bool)
    (inner : Expr) :
    (repetition least most lazy inner).Matches =
      Then (Times inner.Matches least) (Several inner.Matches (most.map (· - least))) := by
  funext left text right
  refine propext ⟨?_, ?_⟩
  · rintro ⟨count, atLeast, atMost, repeated⟩
    obtain ⟨more, rfl⟩ := Nat.exists_eq_add_of_le atLeast
    rw [times_add] at repeated
    obtain ⟨start, rest, rfl, first, others⟩ := repeated
    refine ⟨start, rest, rfl, first, more, fun bound isBound => ?_, others⟩
    obtain ⟨most, isMost, rfl⟩ := Option.map_eq_some_iff.mp isBound
    have bounded := atMost most isMost
    omega
  · rintro ⟨start, rest, rfl, first, more, atMost, others⟩
    refine ⟨least + more, Nat.le_add_right .., fun most isMost => ?_, ?_⟩
    · have bounded := atMost _ (Option.map_eq_some_iff.mpr ⟨most, isMost, rfl⟩)
      omega
    · rw [times_add]
      exact ⟨start, rest, rfl, first, others⟩

namespace Marked

/-- The texts that a marked expression matches; marks do not count. -/
def Matches : Marked → Span
  | .empty => fun _ text _ => text = []
  | .look condition =>
      fun left text right => text = [] ∧ condition.holds (between left right) = true
  | .set _ chars => fun _ text _ => ∃ c, text = [c] ∧ chars.contains c.toNat = true
  | .cat first second => Then first.Matches second.Matches
  | .alt first second => fun left text right =>
      first.Matches left text right ∨ second.Matches left text right
  | .star inner => fun left text right => ∃ count, Times inner.Matches count left text right

theorem matches_copies (count : Nat) (inner last : Marked) :
    (copies count inner last).Matches = Then (Times inner.Matches count) last.Matches := by
  induction count with
  | zero => rw [copies, times_zero_then]
  | succ count inductionHypothesis =>
      rw [copies, Matches, inductionHypothesis, Times, then_assoc]

theorem matches_upTo (count : Nat) (inner : Marked) :
    (upTo count inner).Matches = Several inner.Matches (some count) := by
  induction count with
  | zero =>
      funext left text right
      refine propext ⟨fun isEmpty => ⟨0, fun _ _ => Nat.zero_le _, isEmpty⟩, ?_⟩
      rintro ⟨fewer, atMost, repeated⟩
      rwa [Nat.le_zero.mp (atMost 0 rfl)] at repeated
  | succ count inductionHypothesis =>
      have again : (cat inner (upTo count inner)).Matches =
          Then inner.Matches (Several inner.Matches (some count)) := by
        rw [Matches, inductionHypothesis]
      funext left text right
      rw [upTo, Matches, again]
      refine propext ⟨?_, ?_⟩
      · rintro (isEmpty | ⟨start, rest, rfl, matchesStart, fewer, atMost, repeated⟩)
        · exact ⟨0, fun _ _ => Nat.zero_le _, isEmpty⟩
        · refine ⟨fewer + 1, ?_, start, rest, rfl, matchesStart, repeated⟩
          rintro bound ⟨⟩
          exact Nat.succ_le_succ (atMost count rfl)
      · rintro ⟨fewer, atMost, repeated⟩
        cases fewer with
        | zero => exact .inl repeated
        | succ fewer =>
            obtain ⟨start, rest, rfl, matchesStart, others⟩ := repeated
            refine .inr ⟨start, rest, rfl, matchesStart, fewer, ?_, others⟩
            rintro bound ⟨⟩
            exact Nat.le_of_succ_le_succ (atMost _ rfl)

theorem matches_star (inner : Marked) :
    (star inner).Matches = Several inner.Matches none := by
  funext left text right
  exact propext (exists_congr fun count => (and_iff_right nofun).symm)

/-- Writing out counted repetitions does not change what is matched. -/
theorem matches_ofExpr (expr : Expr) : (ofExpr expr).Matches = expr.Matches := by
  induction expr with
  | empty | set | look => rfl
  | cat first second firstHypothesis secondHypothesis =>
      rw [ofExpr, Matches, Expr.Matches, firstHypothesis, secondHypothesis]
  | alt first second firstHypothesis secondHypothesis =>
      rw [ofExpr, Matches, Expr.Matches, firstHypothesis, secondHypothesis]
  | capture name inner inductionHypothesis => exact inductionHypothesis
  | repetition least most lazy inner inductionHypothesis =>
      rw [Expr.matches_repetition]
      cases most with
      | none =>
          rw [ofExpr, matches_copies, matches_star, inductionHypothesis]
          rfl
      | some most =>
          rw [ofExpr, matches_copies, matches_upTo, inductionHypothesis]
          rfl

/-! ## Marks -/

/-- The texts that complete a match whose beginning has been read, as the marks say. -/
def Underway : Marked → Span
  | .empty => fun _ _ _ => False
  | .look _ => fun _ _ _ => False
  | .set marked _ => fun _ text _ => marked = true ∧ text = []
  | .cat first second => fun left text right =>
      Then first.Underway second.Matches left text right ∨ second.Underway left text right
  | .alt first second => fun left text right =>
      first.Underway left text right ∨ second.Underway left text right
  | .star inner => Then inner.Underway (star inner).Matches

theorem underway_cat_iff {first second : Marked} :
    (cat first second).Underway left text right ↔
      Then first.Underway second.Matches left text right ∨ second.Underway left text right :=
  Iff.rfl

theorem underway_alt_iff {first second : Marked} :
    (alt first second).Underway left text right ↔
      first.Underway left text right ∨ second.Underway left text right :=
  Iff.rfl

theorem matches_alt_iff {first second : Marked} :
    (alt first second).Matches left text right ↔
      first.Matches left text right ∨ second.Matches left text right :=
  Iff.rfl

theorem nullable_iff (marked : Marked) :
    marked.nullable (between left right) = true ↔ marked.Matches left [] right := by
  induction marked with
  | empty => exact iff_of_true rfl rfl
  | look condition => exact (and_iff_right rfl).symm
  | set marked chars =>
      refine iff_of_false nofun ?_
      rintro ⟨c, impossible, -⟩
      cases impossible
  | cat first second firstHypothesis secondHypothesis =>
      rw [nullable, Bool.and_eq_true, firstHypothesis, secondHypothesis, Matches, then_nil_iff]
  | alt first second firstHypothesis secondHypothesis =>
      rw [nullable, Bool.or_eq_true, firstHypothesis, secondHypothesis, matches_alt_iff]
  | star inner => exact iff_of_true rfl ⟨0, rfl⟩

theorem ended_iff (marked : Marked) :
    marked.ended (between left right) = true ↔ marked.Underway left [] right := by
  induction marked with
  | empty | look => exact iff_of_false nofun nofun
  | set marked chars => exact (and_iff_left rfl).symm
  | cat first second firstHypothesis secondHypothesis =>
      rw [ended, Bool.or_eq_true, Bool.and_eq_true, firstHypothesis, secondHypothesis,
        nullable_iff, underway_cat_iff, then_nil_iff, or_comm]
  | alt first second firstHypothesis secondHypothesis =>
      rw [ended, Bool.or_eq_true, firstHypothesis, secondHypothesis, underway_alt_iff]
  | star inner inductionHypothesis =>
      rw [ended, inductionHypothesis, Underway, then_nil_iff]
      exact (and_iff_left ⟨0, rfl⟩).symm

/-- Reading a character moves marks only. -/
theorem matches_advance (marked : Marked) (site : Site) (c : Char) (enter : Bool) :
    (marked.advance site c enter).Matches = marked.Matches := by
  induction marked generalizing enter with
  | empty | look | set => rfl
  | cat first second firstHypothesis secondHypothesis =>
      rw [advance, Matches, Matches, firstHypothesis, secondHypothesis]
  | alt first second firstHypothesis secondHypothesis =>
      rw [advance, Matches, Matches, firstHypothesis, secondHypothesis]
  | star inner inductionHypothesis => rw [advance, Matches, Matches, inductionHypothesis]

theorem matches_star_advance (inner : Marked) (site : Site) (c : Char) (enter : Bool) :
    (inner.advance site c enter).star.Matches = inner.star.Matches := by
  rw [Matches, Matches, matches_advance]

/-- What completes a match after a character completes one before it together with the character;
new matches begin with the character if they may. -/
theorem underway_advance (marked : Marked) (enter : Bool) :
    (marked.advance (between left (c :: (text ++ right))) c enter).Underway
        (left ++ [c]) text right ↔
      marked.Underway left (c :: text) right ∨
        enter = true ∧ marked.Matches left (c :: text) right := by
  induction marked generalizing text right enter with
  | empty | look =>
      refine iff_of_false nofun ?_
      rintro (impossible | ⟨-, impossible⟩)
      · exact impossible
      · simp [Matches] at impossible
  | set marked chars =>
      rw [advance, Underway, Bool.and_eq_true]
      constructor
      · rintro ⟨⟨entered, member⟩, rfl⟩
        exact .inr ⟨entered, c, rfl, member⟩
      · rintro (⟨-, impossible⟩ | ⟨entered, d, same, member⟩)
        · cases impossible
        · obtain ⟨rfl, rfl⟩ := List.cons.inj same
          exact ⟨⟨entered, member⟩, rfl⟩
  | cat first second firstHypothesis secondHypothesis =>
      have firstPart : Then (first.advance (between left (c :: (text ++ right))) c enter).Underway
            second.Matches (left ++ [c]) text right ↔
          ∃ start rest, text = start ++ rest ∧
            (first.Underway left (c :: start) (rest ++ right) ∨
              enter = true ∧ first.Matches left (c :: start) (rest ++ right)) ∧
            second.Matches (left ++ [c] ++ start) rest right := by
        refine exists_congr fun start => exists_congr fun rest => and_congr_right fun _ => ?_
        rw [between_cons _ _ _ (start ++ (rest ++ right)), firstHypothesis]
      have secondPart := @secondHypothesis text right
        (first.ended (between left (c :: (text ++ right))) ||
          enter && first.nullable (between left (c :: (text ++ right))))
      rw [Bool.or_eq_true, Bool.and_eq_true, ended_iff, nullable_iff] at secondPart
      rw [advance, underway_cat_iff, matches_advance, firstPart, secondPart, underway_cat_iff,
        Matches, then_cons_iff, then_cons_iff, List.cons_append]
      constructor
      · rintro (⟨start, rest, same, begun | ⟨entered, begun⟩, ends⟩ |
          begun | ⟨begun | ⟨entered, begun⟩, ends⟩)
        · exact .inl (.inl (.inr ⟨start, rest, same, begun, ends⟩))
        · exact .inr ⟨entered, .inr ⟨start, rest, same, begun, ends⟩⟩
        · exact .inl (.inr begun)
        · exact .inl (.inl (.inl ⟨begun, ends⟩))
        · exact .inr ⟨entered, .inl ⟨begun, ends⟩⟩
      · rintro (((⟨begun, ends⟩ | ⟨start, rest, same, begun, ends⟩) | begun) |
          ⟨entered, ⟨begun, ends⟩ | ⟨start, rest, same, begun, ends⟩⟩)
        · exact .inr (.inr ⟨.inl begun, ends⟩)
        · exact .inl ⟨start, rest, same, .inl begun, ends⟩
        · exact .inr (.inl begun)
        · exact .inr (.inr ⟨.inr ⟨entered, begun⟩, ends⟩)
        · exact .inl ⟨start, rest, same, .inr ⟨entered, begun⟩, ends⟩
  | alt first second firstHypothesis secondHypothesis =>
      rw [advance, underway_alt_iff, firstHypothesis, secondHypothesis, underway_alt_iff,
        matches_alt_iff, and_or_left]
      exact or_or_or_comm
  | star inner inductionHypothesis =>
      have moved : (inner.star.advance (between left (c :: (text ++ right))) c enter).Underway
            (left ++ [c]) text right ↔
          ∃ start rest, text = start ++ rest ∧
            (inner.Underway left (c :: start) (rest ++ right) ∨
              (enter = true ∨ inner.Underway left [] (c :: text ++ right)) ∧
                inner.Matches left (c :: start) (rest ++ right)) ∧
            inner.star.Matches (left ++ [c] ++ start) rest right := by
        rw [advance, Underway]
        refine exists_congr fun start => exists_congr fun rest => and_congr_right ?_
        rintro rfl
        have begun := @inductionHypothesis start (rest ++ right)
          (enter || inner.ended (between left (c :: (start ++ rest ++ right))))
        rw [Bool.or_eq_true, ended_iff, ← List.append_assoc] at begun
        rw [begun, matches_star_advance]
        rfl
      have several : inner.star.Matches left (c :: text) right ↔ _ := exists_times_cons_iff
      rw [moved, Underway, then_cons_iff, several]
      constructor
      · rintro ⟨start, rest, same, begun | ⟨entered | begun, again⟩, ends⟩
        · exact .inl (.inr ⟨start, rest, same, begun, ends⟩)
        · exact .inr ⟨entered, start, rest, same, again, ends⟩
        · exact .inl (.inl ⟨begun, start, rest, same, again, ends⟩)
      · rintro ((⟨begun, start, rest, same, again, ends⟩ | ⟨start, rest, same, begun, ends⟩) |
          ⟨entered, start, rest, same, again, ends⟩)
        · exact ⟨start, rest, same, .inr ⟨.inr begun, again⟩, ends⟩
        · exact ⟨start, rest, same, .inl begun, ends⟩
        · exact ⟨start, rest, same, .inr ⟨.inl entered, again⟩, ends⟩

/-! ## Searching -/

theorem accepts_iff (marked : Marked) :
    marked.accepts (between left right) = true ↔
      marked.Underway left [] right ∨ marked.Matches left [] right := by
  rw [accepts, Bool.or_eq_true, ended_iff, nullable_iff]

/-- The search succeeds if a match that is under way can be completed, or there is a new one. -/
theorem search_iff (marked : Marked) (cs : List Char) :
    marked.search left.getLast? cs = true ↔
      ∃ start rest, cs = start ++ rest ∧
        (marked.Underway left start rest ∨
          ∃ skipped found, start = skipped ++ found ∧
            marked.Matches (left ++ skipped) found rest) := by
  induction cs generalizing left marked with
  | nil =>
      have here : marked.accepts (between left []) = true ↔ _ := accepts_iff marked
      rw [search, show (⟨left.getLast?, none⟩ : Site) = between left [] from rfl, here]
      constructor
      · rintro (begun | found)
        · exact ⟨[], [], rfl, .inl begun⟩
        · exact ⟨[], [], rfl, .inr ⟨[], [], rfl, by rwa [List.append_nil]⟩⟩
      · rintro ⟨start, rest, same, found⟩
        obtain ⟨rfl, rfl⟩ := List.append_eq_nil_iff.mp same.symm
        rcases found with begun | ⟨skipped, found, same, matched⟩
        · exact .inl begun
        · obtain ⟨rfl, rfl⟩ := List.append_eq_nil_iff.mp same.symm
          rw [List.append_nil] at matched
          exact .inr matched
  | cons c cs inductionHypothesis =>
      have here : marked.accepts (between left (c :: cs)) = true ↔ _ := accepts_iff marked
      have later := @inductionHypothesis (left ++ [c])
        (marked.advance (between left (c :: cs)) c true)
      rw [List.getLast?_concat] at later
      rw [search, show (⟨left.getLast?, some c⟩ : Site) = between left (c :: cs) from rfl,
        Bool.or_eq_true, here, later]
      constructor
      · rintro ((begun | found) | ⟨start, rest, rfl, moved | ⟨skipped, found, rfl, matched⟩⟩)
        · exact ⟨[], c :: cs, rfl, .inl begun⟩
        · exact ⟨[], c :: cs, rfl, .inr ⟨[], [], rfl, by rwa [List.append_nil]⟩⟩
        · rcases (underway_advance marked true).mp moved with begun | ⟨-, found⟩
          · exact ⟨c :: start, rest, rfl, .inl begun⟩
          · exact ⟨c :: start, rest, rfl, .inr ⟨[], c :: start, rfl, by rwa [List.append_nil]⟩⟩
        · rw [matches_advance, List.append_assoc, List.singleton_append] at matched
          exact ⟨c :: (skipped ++ found), rest, rfl, .inr ⟨c :: skipped, found, rfl, matched⟩⟩
      · rintro ⟨start, rest, same, found⟩
        cases start with
        | nil =>
            rw [List.nil_append] at same
            subst same
            rcases found with begun | ⟨skipped, found, same, matched⟩
            · exact .inl (.inl begun)
            · obtain ⟨rfl, rfl⟩ := List.append_eq_nil_iff.mp same.symm
              rw [List.append_nil] at matched
              exact .inl (.inr matched)
        | cons d start =>
            obtain ⟨rfl, rfl⟩ := List.cons.inj same
            refine .inr ⟨start, rest, rfl, ?_⟩
            rcases found with begun | ⟨skipped, found, same, matched⟩
            · exact .inl ((underway_advance marked true).mpr (.inl begun))
            · cases skipped with
              | nil =>
                  rw [List.nil_append] at same
                  subst same
                  rw [List.append_nil] at matched
                  exact .inl ((underway_advance marked true).mpr (.inr ⟨rfl, matched⟩))
              | cons d skipped =>
                  obtain ⟨rfl, rfl⟩ := List.cons.inj same
                  refine .inr ⟨skipped, found, rfl, ?_⟩
                  rwa [matches_advance, List.append_assoc, List.singleton_append]

/-- A fresh copy has no marks. -/
theorem not_underway_copies
    {inner last : Marked}
    (freshInner : ∀ left text right, ¬inner.Underway left text right)
    (freshLast : ∀ left text right, ¬last.Underway left text right)
    (count : Nat) :
    ∀ left text right, ¬(copies count inner last).Underway left text right := by
  induction count with
  | zero => exact freshLast
  | succ count inductionHypothesis =>
      rintro left text right (⟨start, rest, -, begun, -⟩ | begun)
      · exact freshInner _ _ _ begun
      · exact inductionHypothesis _ _ _ begun

theorem not_underway_upTo
    {inner : Marked}
    (freshInner : ∀ left text right, ¬inner.Underway left text right)
    (count : Nat) :
    ∀ left text right, ¬(upTo count inner).Underway left text right := by
  induction count with
  | zero => exact fun _ _ _ => id
  | succ count inductionHypothesis =>
      rintro left text right (impossible | ⟨start, rest, -, begun, -⟩ | begun)
      · exact impossible
      · exact freshInner _ _ _ begun
      · exact inductionHypothesis _ _ _ begun

theorem not_underway_ofExpr (expr : Expr) :
    ∀ left text right, ¬(ofExpr expr).Underway left text right := by
  induction expr with
  | empty | look => exact fun _ _ _ => id
  | set chars =>
      rintro left text right ⟨impossible, -⟩
      cases impossible
  | cat first second firstHypothesis secondHypothesis =>
      rintro left text right (⟨start, rest, -, begun, -⟩ | begun)
      · exact firstHypothesis _ _ _ begun
      · exact secondHypothesis _ _ _ begun
  | alt first second firstHypothesis secondHypothesis =>
      rintro left text right (begun | begun)
      · exact firstHypothesis _ _ _ begun
      · exact secondHypothesis _ _ _ begun
  | capture name inner inductionHypothesis => exact inductionHypothesis
  | repetition least most lazy inner inductionHypothesis =>
      cases most with
      | none =>
          refine not_underway_copies inductionHypothesis ?_ least
          rintro left text right ⟨start, rest, -, begun, -⟩
          exact inductionHypothesis _ _ _ begun
      | some most =>
          exact not_underway_copies inductionHypothesis
            (not_underway_upTo inductionHypothesis _) least

end Marked

theorem Compiled.eq_of_ofExpr
    {expr : Expr}
    {compiled : Compiled}
    (isCompiled : Compiled.ofExpr expr = .ok compiled) :
    compiled = ⟨expr, Marked.ofExpr expr⟩ := by
  rw [Compiled.ofExpr] at isCompiled
  split at isCompiled
  · cases isCompiled
  · exact (Except.ok.inj isCompiled).symm

/-- A compiled expression is found exactly in the texts of which it matches some part where that
stands. -/
theorem Compiled.isMatch_iff
    {expr : Expr}
    {compiled : Compiled}
    (isCompiled : Compiled.ofExpr expr = .ok compiled)
    (s : String) :
    compiled.isMatch s = true ↔
      ∃ before found after, s.toList = before ++ found ++ after ∧
        expr.Matches before found after := by
  have searched := @Marked.search_iff [] (Marked.ofExpr expr) s.toList
  rw [Compiled.isMatch, Compiled.eq_of_ofExpr isCompiled,
    show (none : Option Char) = [].getLast? from rfl, searched]
  constructor
  · rintro ⟨_, after, same, begun | ⟨before, found, rfl, matched⟩⟩
    · exact absurd begun (Marked.not_underway_ofExpr expr _ _ _)
    · rw [Marked.matches_ofExpr, List.nil_append] at matched
      exact ⟨before, found, after, same, matched⟩
  · rintro ⟨before, found, after, same, matched⟩
    refine ⟨before ++ found, after, same, .inr ⟨before, found, rfl, ?_⟩⟩
    rwa [Marked.matches_ofExpr, List.nil_append]

end Pattern
end TailView
