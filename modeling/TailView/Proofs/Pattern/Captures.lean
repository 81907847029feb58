import TailView.Proofs.Pattern.Plain
import TailView.Proofs.Pattern.Ways

/-!
# What the groups of a plain pattern match

A search that succeeds takes a word where the word stands.  A run ends where what follows it can go
on; if nothing can go on in front of a character of the run, there is one such place and greed does
not matter.  A lazy run ends at the first such place.
-/

namespace TailView
namespace Pattern

open Progress (reached)

variable {left right text run cs : List Char} {groups : List Group} {last : Progress}
  {chars : CharSet} {onward : Search} {least : Nat} {most : Option Nat} {lazy : Bool}
  {name : String}

/-! ## Groups -/

/-- A group that has matched a text behind another one. -/
def Group.matched (name : String) (left text : List Char) : Group :=
  ⟨name, left.length, (left ++ text).length⟩

/-- The text of a group is what it matched. -/
theorem Captures.text?_of_find?
    {captures : Captures}
    (left text right : List Char)
    (found : captures.groups.find? (·.name = name) = some (.matched name left text))
    (same : captures.text = left ++ (text ++ right)) :
    captures.text? name = some text := by
  have size : (left ++ text).length - left.length = text.length := by
    rw [List.length_append, Nat.add_sub_cancel_left]
  rw [Captures.text?, found, Option.map_some, same, Group.matched, List.drop_left, size,
    List.take_left]

/-- What follows cannot go on in front of a character of a set. -/
def Search.Stops (onward : Search) (chars : CharSet) : Prop :=
  ∀ left c rest groups, chars.contains c.toNat = true →
    onward (reached left (c :: rest) groups) = none

namespace Expr

/-! ## Words -/

theorem attempt_set_iff :
    (set chars).attempt onward (reached left right groups) = some last ↔
      ∃ c rest, right = c :: rest ∧ chars.contains c.toNat = true ∧
        onward (reached (left ++ [c]) rest groups) = some last := by
  rw [attempt, Option.bind_eq_some_iff]
  simp only [Progress.read?_reached_eq_some_iff]
  constructor
  · rintro ⟨_, ⟨c, rest, same, contained, rfl⟩, found⟩
    exact ⟨c, rest, same, contained, found⟩
  · rintro ⟨c, rest, same, contained, found⟩
    exact ⟨_, ⟨c, rest, same, contained, rfl⟩, found⟩

theorem attempt_word_iff {rest : Expr} :
    (word cs rest).attempt onward (reached left right groups) = some last ↔
      ∃ others, right = cs ++ others ∧
        rest.attempt onward (reached (left ++ cs) others groups) = some last := by
  induction cs generalizing left right with
  | nil =>
      constructor
      · exact fun found => ⟨right, rfl, by rwa [List.append_nil]⟩
      · rintro ⟨others, rfl, found⟩
        rwa [List.append_nil] at found
  | cons c cs inductionHypothesis =>
      rw [word, List.foldr_cons, ← word, attempt, attempt_set_iff]
      simp only [inductionHypothesis, contains_single_iff, List.append_assoc,
        List.singleton_append]
      constructor
      · rintro ⟨c, _, rfl, rfl, others, rfl, found⟩
        exact ⟨others, rfl, found⟩
      · rintro ⟨others, rfl, found⟩
        exact ⟨c, cs ++ others, rfl, rfl, others, rfl, found⟩

theorem stops_word {c : Char} {rest : Expr} (apart : chars.contains c.toNat = false) :
    Search.Stops ((word (c :: cs) rest).attempt onward) chars := by
  intro left d others groups member
  refine Option.eq_none_iff_forall_ne_some.mpr fun last found => ?_
  obtain ⟨_, same, -⟩ := attempt_word_iff.mp found
  obtain ⟨rfl, -⟩ := List.cons.inj same
  rw [apart] at member
  cases member

theorem attempt_textEnd_iff :
    (look .textEnd).attempt onward (reached left right groups) = some last ↔
      right = [] ∧ onward (reached left right groups) = some last := by
  cases right with
  | nil => exact (and_iff_right rfl).symm
  | cons c right => exact iff_of_false nofun nofun

theorem stops_textEnd : Search.Stops ((look .textEnd).attempt onward) chars :=
  fun _ _ _ _ _ => rfl

/-! ## Runs -/

theorem times_attempt_set_iff {count : Nat} :
    Search.times (set chars).attempt onward count (reached left right groups) = some last ↔
      ∃ run rest, right = run ++ rest ∧ run.length = count ∧
        (∀ c ∈ run, chars.contains c.toNat = true) ∧
        onward (reached (left ++ run) rest groups) = some last := by
  induction count generalizing left right with
  | zero =>
      constructor
      · exact fun found => ⟨[], right, rfl, rfl, List.forall_mem_nil _, by rwa [List.append_nil]⟩
      · rintro ⟨run, rest, rfl, isEmpty, -, found⟩
        obtain rfl := List.length_eq_zero_iff.mp isEmpty
        rwa [List.append_nil] at found
  | succ count inductionHypothesis =>
      rw [Search.times, attempt_set_iff]
      simp only [inductionHypothesis, List.append_assoc, List.singleton_append]
      constructor
      · rintro ⟨c, _, rfl, member, run, rest, rfl, size, members, found⟩
        exact ⟨c :: run, rest, rfl, congrArg Nat.succ size,
          List.forall_mem_cons.mpr ⟨member, members⟩, found⟩
      · rintro ⟨run, rest, rfl, size, members, found⟩
        cases run with
        | nil => cases size
        | cons c run =>
            obtain ⟨member, members⟩ := List.forall_mem_cons.mp members
            exact ⟨c, run ++ rest, rfl, member, run, rest, rfl, Nat.succ.inj size, members, found⟩

/-- One more round reads one more character. -/
theorem attempt_set_onward_iff {further : Search} :
    (set chars).attempt (fun there =>
        if (reached left right groups).position < there.position then further there else none)
        (reached left right groups) = some last ↔
      ∃ c rest, right = c :: rest ∧ chars.contains c.toNat = true ∧
        further (reached (left ++ [c]) rest groups) = some last := by
  have advances : ∀ c rest, (reached left right groups).position <
      (reached (left ++ [c]) rest groups).position := by
    intro c rest
    rw [reached, reached, List.length_append]
    exact Nat.lt_add_one _
  rw [attempt_set_iff]
  simp only [advances, if_true]

/-- If what follows cannot go on within a run, at most one of stopping and going on finds something,
and their order does not matter. -/
theorem upTo_succ_attempt_set_iff (stops : onward.Stops chars) {count : Nat} :
    Search.upTo lazy (set chars).attempt onward (count + 1) (reached left right groups) =
        some last ↔
      onward (reached left right groups) = some last ∨
        ∃ c rest, right = c :: rest ∧ chars.contains c.toNat = true ∧
          Search.upTo lazy (set chars).attempt onward count (reached (left ++ [c]) rest groups) =
            some last := by
  rw [← attempt_set_onward_iff]
  have apart : onward (reached left right groups) = none ∨ ∀ further : Search,
      (set chars).attempt further (reached left right groups) = none := by
    by_cases continues : ∃ c rest, right = c :: rest ∧ chars.contains c.toNat = true
    · obtain ⟨c, rest, rfl, member⟩ := continues
      exact .inl (stops left c rest groups member)
    · refine .inr fun further => Option.eq_none_iff_forall_ne_some.mpr fun last found => ?_
      obtain ⟨c, rest, same, member, -⟩ := attempt_set_iff.mp found
      exact continues ⟨c, rest, same, member⟩
  cases lazy with
  | true =>
      change Search.either onward _ _ = _ ↔ _
      exact Search.either_eq_some_iff (apart.imp_right fun nothing => nothing _)
  | false =>
      change Search.either _ onward _ = _ ↔ _
      rw [Search.either_eq_some_iff (apart.symm.imp_left fun nothing => nothing _)]
      exact or_comm

theorem upTo_attempt_set_iff (stops : onward.Stops chars) {count : Nat} :
    Search.upTo lazy (set chars).attempt onward count (reached left right groups) = some last ↔
      ∃ run rest, right = run ++ rest ∧ run.length ≤ count ∧
        (∀ c ∈ run, chars.contains c.toNat = true) ∧
        onward (reached (left ++ run) rest groups) = some last := by
  induction count generalizing left right with
  | zero =>
      constructor
      · exact fun found =>
          ⟨[], right, rfl, Nat.le_refl 0, List.forall_mem_nil _, by rwa [List.append_nil]⟩
      · rintro ⟨run, rest, rfl, isEmpty, -, found⟩
        obtain rfl := List.length_eq_zero_iff.mp (Nat.le_zero.mp isEmpty)
        rwa [List.append_nil] at found
  | succ count inductionHypothesis =>
      rw [upTo_succ_attempt_set_iff stops]
      simp only [inductionHypothesis, List.append_assoc, List.singleton_append]
      constructor
      · rintro (found | ⟨c, _, rfl, member, run, rest, rfl, atMost, members, found⟩)
        · exact ⟨[], right, rfl, Nat.zero_le _, List.forall_mem_nil _, by rwa [List.append_nil]⟩
        · exact ⟨c :: run, rest, rfl, Nat.succ_le_succ atMost,
            List.forall_mem_cons.mpr ⟨member, members⟩, found⟩
      · rintro ⟨run, rest, rfl, atMost, members, found⟩
        cases run with
        | nil => exact .inl (by rwa [List.append_nil] at found)
        | cons c run =>
            obtain ⟨member, members⟩ := List.forall_mem_cons.mp members
            exact .inr ⟨c, run ++ rest, rfl, member, run, rest, rfl,
              Nat.le_of_succ_le_succ atMost, members, found⟩

/-- If what follows cannot go on within a run, the run ends where it goes on. -/
theorem attempt_run_iff (stops : onward.Stops chars) :
    (repetition least most lazy (set chars)).attempt onward (reached left right groups) =
        some last ↔
      ∃ run rest, right = run ++ rest ∧
        (repetition least most lazy (set chars)).Matches left run rest ∧
        onward (reached (left ++ run) rest groups) = some last := by
  have inBounds : ∀ more rest : List Char,
      more.length ≤ (most.map (· - least)).getD (more ++ rest).length ↔
        ∀ bound ∈ most, least + more.length ≤ max least bound := by
    intro more rest
    cases most with
    | none => exact iff_of_true (List.length_append ▸ Nat.le_add_right _ _) nofun
    | some most =>
        simp only [Option.map_some, Option.getD_some, Option.mem_some_iff, forall_eq']
        omega
  rw [attempt, times_attempt_set_iff]
  simp only [upTo_attempt_set_iff stops, matches_run_iff]
  constructor
  · rintro ⟨first, _, rfl, size, members, more, rest, rfl, atMost, others, found⟩
    rw [show (reached (left ++ first) (more ++ rest) groups).rest = more ++ rest from rfl,
      inBounds, ← size, ← List.length_append] at atMost
    rw [List.append_assoc] at found
    refine ⟨first ++ more, rest, (List.append_assoc ..).symm, ⟨?_, ?_, ?_⟩, found⟩
    · rw [List.length_append, size]
      exact Nat.le_add_right _ _
    · rwa [← size]
    · exact List.forall_mem_append.mpr ⟨members, others⟩
  · rintro ⟨run, rest, rfl, ⟨atLeast, atMost, members⟩, found⟩
    obtain ⟨first, more, rfl, size⟩ : ∃ first more, run = first ++ more ∧ first.length = least :=
      ⟨run.take least, run.drop least, (List.take_append_drop ..).symm,
        List.length_take_of_le atLeast⟩
    obtain ⟨members, others⟩ := List.forall_mem_append.mp members
    rw [← List.append_assoc] at found
    refine ⟨first, more ++ rest, List.append_assoc .., size, members, more, rest, rfl, ?_, others,
      found⟩
    rw [show (reached (left ++ first) (more ++ rest) groups).rest = more ++ rest from rfl,
      inBounds, ← size, ← List.length_append]
    rwa [← size] at atMost

theorem upTo_true_attempt_set_iff {count : Nat} (enough : right.length ≤ count) :
    Search.upTo true (set chars).attempt onward count (reached left right groups) = some last ↔
      FirstPlace
        (fun run rest => (∀ c ∈ run, chars.contains c.toNat = true) ∧
          onward (reached (left ++ run) rest groups) = some last)
        (fun run rest => onward (reached (left ++ run) rest groups) = none) right := by
  induction count generalizing left right with
  | zero =>
      obtain rfl := List.length_eq_zero_iff.mp (Nat.le_zero.mp enough)
      rw [firstPlace_nil_iff, and_iff_right (List.forall_mem_nil _), List.append_nil]
      rfl
  | succ count inductionHypothesis =>
      change Search.either onward _ _ = _ ↔ _
      rw [Search.either_eq, Option.or_eq_some_iff, attempt_set_onward_iff]
      cases right with
      | nil =>
          rw [firstPlace_nil_iff, and_iff_right (List.forall_mem_nil _), List.append_nil]
          exact or_iff_left (by rintro ⟨-, c, rest, ⟨⟩, -⟩)
      | cons c rest =>
          have behind := @inductionHypothesis (left ++ [c]) rest (Nat.le_of_succ_le_succ enough)
          simp only [List.append_assoc, List.singleton_append] at behind
          rw [firstPlace_cons_iff, and_iff_right (List.forall_mem_nil _), List.append_nil]
          simp only [List.forall_mem_cons, and_assoc, firstPlace_and_iff, ← behind]
          refine or_congr_right (and_congr_right fun _ => ?_)
          constructor
          · rintro ⟨_, _, ⟨⟩, member, again⟩
            exact ⟨member, again⟩
          · rintro ⟨member, again⟩
            exact ⟨c, rest, rfl, member, again⟩

/-- A lazy run ends at the first place at which what follows can go on. -/
theorem attempt_lazy_run_iff :
    (repetition 0 none true (set chars)).attempt onward (reached left right groups) = some last ↔
      FirstPlace
        (fun run rest => (∀ c ∈ run, chars.contains c.toNat = true) ∧
          onward (reached (left ++ run) rest groups) = some last)
        (fun run rest => onward (reached (left ++ run) rest groups) = none) right :=
  upTo_true_attempt_set_iff (Nat.le_refl _)

/-! ## Runs in groups -/

theorem attempt_capture_run_iff {rest : Expr} (stops : Search.Stops (rest.attempt onward) chars) :
    (cat (capture name (repetition least most lazy (set chars))) rest).attempt onward
        (reached left right groups) = some last ↔
      ∃ run others, right = run ++ others ∧
        (repetition least most lazy (set chars)).Matches left run others ∧
        rest.attempt onward (reached (left ++ run) others (.matched name left run :: groups)) =
          some last :=
  attempt_run_iff fun left c others _ member => stops left c others _ member

theorem attempt_capture_lazy_run_iff {rest : Expr} :
    (cat (capture name (repetition 0 none true (set chars))) rest).attempt onward
        (reached left right groups) = some last ↔
      FirstPlace
        (fun run others => (∀ c ∈ run, chars.contains c.toNat = true) ∧
          rest.attempt onward (reached (left ++ run) others (.matched name left run :: groups)) =
            some last)
        (fun run others =>
          rest.attempt onward (reached (left ++ run) others (.matched name left run :: groups)) =
            none) right :=
  attempt_lazy_run_iff

/-! ## Anchored patterns -/

theorem firstMatch?_textStart_some (expr : Expr) (c : Char) (position : Nat) (cs : List Char) :
    (cat (look .textStart) expr).firstMatch? (some c) position cs = none := by
  induction cs generalizing c position with
  | nil => rfl
  | cons d cs inductionHypothesis =>
      rw [firstMatch?, inductionHypothesis]
      rfl

/-- A pattern that begins with the start of the text is tried there only. -/
theorem firstMatch?_textStart (expr : Expr) (cs : List Char) :
    (cat (look .textStart) expr).firstMatch? none 0 cs = expr.attempt some (reached [] cs []) := by
  cases cs with
  | nil => rfl
  | cons c cs =>
      have here : (cat (look .textStart) expr).attempt some ⟨none, 0, c :: cs, []⟩ =
        expr.attempt some (reached [] (c :: cs) []) := rfl
      rw [firstMatch?, firstMatch?_textStart_some, here]
      cases expr.attempt some (reached [] (c :: cs) []) <;> rfl

end Expr
end Pattern
end TailView
