import TailView.Proofs.Pattern.Matching

/-!
# The ways to match, in order

The ways of an expression to match at a place form a list, the preferred ones first.  A search with
captures goes through this list and stops at the first way that what follows can go on from.  Every
way ends behind a text that the expression matches, and each such text has a way, so groups are
found exactly in the texts in which the pattern is found at all.
-/

namespace TailView
namespace Pattern

open Pattern.Span

variable {left text right rest : List Char} {groups : List Group} {here there : Progress}

/-! ## The list of ways -/

/-- The ways to go on from a place. -/
abbrev Ways := Progress → List Progress

namespace Ways

/-- One part and then another. -/
def andThen (first second : Ways) : Ways := fun here => (first here).flatMap second

/-- So many rounds of a part. -/
def times (part : Ways) : Nat → Ways
  | 0 => fun here => [here]
  | count + 1 => part.andThen (times part count)

/-- Up to so many rounds of a part that each read something. -/
def upTo (lazy : Bool) (part : Ways) : Nat → Ways
  | 0 => fun here => [here]
  | count + 1 => fun here =>
      let again := (part here).flatMap fun there =>
        if here.position < there.position then upTo lazy part count there else []
      if lazy then here :: again else again ++ [here]

/-- Rounds of a part that each read something, at most so many if there is a bound. -/
def several (lazy : Bool) (part : Ways) (most : Option Nat) : Ways := fun here =>
  part.upTo lazy (most.getD here.rest.length) here

end Ways

/-- The ways of an expression to match, the preferred ones first. -/
def Expr.ways : Expr → Ways
  | .empty, here => [here]
  | .set chars, here => (here.read? chars).toList
  | .look condition, here => if condition.holds here.site then [here] else []
  | .cat first second, here => first.ways.andThen second.ways here
  | .alt first second, here => first.ways here ++ second.ways here
  | .repetition least most lazy inner, here =>
      (inner.ways.times least).andThen (inner.ways.several lazy (most.map (· - least))) here
  | .capture name inner, here => (inner.ways here).map (·.close name here.position)

/-! ## Searching through the list -/

theorem findSome?_flatMap
    {α β γ : Type}
    (items : List α)
    (next : α → List β)
    (find? : β → Option γ) :
    (items.flatMap next).findSome? find? =
      items.findSome? fun item => (next item).findSome? find? := by
  simp only [← List.head?_filterMap, List.filterMap_flatMap, List.head?_flatMap]

theorem Search.either_eq (first second : Search) (here : Progress) :
    either first second here = (first here).or (second here) := by
  rw [either]
  cases first here <;> rfl

/-- Where one of two searches finds nothing their order does not matter. -/
theorem Search.either_eq_some_iff
    {first second : Search}
    (apart : first here = none ∨ second here = none) :
    either first second here = some there ↔ first here = some there ∨ second here = some there := by
  rw [either_eq, Option.or_eq_some_iff]
  rcases apart with nothing | nothing
  · rw [nothing]
    exact or_congr_right (and_iff_right rfl)
  · rw [nothing]
    exact or_congr_right (iff_of_false nofun nofun)

/-- A search goes through the ways of a part in order. -/
def Search.Tries (search : Search → Search) (ways : Ways) : Prop :=
  ∀ onward here, search onward here = (ways here).findSome? onward

namespace Search.Tries

variable {first second part : Search → Search} {firstWays secondWays ways : Ways}

theorem andThen (triesFirst : Tries first firstWays) (triesSecond : Tries second secondWays) :
    Tries (fun onward => first (second onward)) (firstWays.andThen secondWays) := by
  intro onward here
  have sameOnward : second onward = fun there => (secondWays there).findSome? onward :=
    funext (triesSecond onward)
  rw [Ways.andThen, findSome?_flatMap, ← sameOnward]
  exact triesFirst _ here

theorem times (tries : Tries part ways) (count : Nat) :
    Tries (Search.times part · count) (ways.times count) := by
  induction count with
  | zero => exact fun onward here => List.findSome?_singleton.symm
  | succ count inductionHypothesis => exact tries.andThen inductionHypothesis

theorem upTo (tries : Tries part ways) (lazy : Bool) (count : Nat) :
    Tries (Search.upTo lazy part · count) (ways.upTo lazy count) := by
  induction count with
  | zero => exact fun onward here => List.findSome?_singleton.symm
  | succ count inductionHypothesis =>
      intro onward here
      have again : part (fun there =>
            if here.position < there.position then Search.upTo lazy part onward count there
            else none) here =
          ((ways here).flatMap fun there =>
            if here.position < there.position then ways.upTo lazy count there
            else []).findSome? onward := by
        rw [tries, findSome?_flatMap]
        refine congrArg (List.findSome? · _) (funext fun there => ?_)
        rw [apply_ite (List.findSome? onward), ← inductionHypothesis onward there]
        rfl
      cases lazy with
      | true =>
          change Search.either onward _ here = List.findSome? onward (here :: _)
          rw [either_eq, again, List.findSome?_cons]
          cases onward here <;> rfl
      | false =>
          change Search.either _ onward here = List.findSome? onward (_ ++ [here])
          rw [either_eq, again, List.findSome?_append, List.findSome?_singleton]

end Search.Tries

/-- The search tries the ways of an expression in order. -/
theorem Expr.tries_attempt (expr : Expr) : Search.Tries expr.attempt expr.ways := by
  induction expr with
  | empty => exact fun onward here => List.findSome?_singleton.symm
  | set chars =>
      intro onward here
      rw [attempt, ways]
      cases here.read? chars with
      | none => rfl
      | some there => exact List.findSome?_singleton.symm
  | look condition =>
      intro onward here
      rw [attempt, ways]
      split
      · exact List.findSome?_singleton.symm
      · rfl
  | cat first second firstHypothesis secondHypothesis =>
      exact firstHypothesis.andThen secondHypothesis
  | alt first second firstHypothesis secondHypothesis =>
      intro onward here
      rw [attempt, Search.either_eq, firstHypothesis, secondHypothesis, ways,
        List.findSome?_append]
  | repetition least most lazy inner inductionHypothesis =>
      exact (inductionHypothesis.times least).andThen fun onward here =>
        inductionHypothesis.upTo lazy _ onward here
  | capture name inner inductionHypothesis =>
      intro onward here
      rw [attempt, inductionHypothesis, ways, List.findSome?_map]
      rfl

/-! ## The texts of the ways -/

/-- A place in a text, with the groups matched so far. -/
def Progress.reached (left right : List Char) (groups : List Group) : Progress :=
  ⟨left.getLast?, left.length, right, groups⟩

open Progress (reached)

theorem Progress.read?_reached_nil {chars : CharSet} :
    (reached left [] groups).read? chars = none := rfl

theorem Progress.read?_reached_cons {chars : CharSet} {c : Char} :
    (reached left (c :: right) groups).read? chars =
      if chars.contains c.toNat then some (reached (left ++ [c]) right groups) else none := by
  rw [reached, reached, List.getLast?_concat, List.length_append, List.length_singleton]
  rfl

theorem Progress.read?_reached_eq_some_iff {chars : CharSet} :
    (reached left rest groups).read? chars = some there ↔
      ∃ c right, rest = c :: right ∧ chars.contains c.toNat = true ∧
        reached (left ++ [c]) right groups = there := by
  cases rest with
  | nil =>
      rw [read?_reached_nil]
      exact iff_of_false nofun (by rintro ⟨c, right, ⟨⟩, -⟩)
  | cons c right =>
      rw [read?_reached_cons, Option.ite_none_right_eq_some, Option.some.injEq]
      constructor
      · rintro ⟨contained, reaches⟩
        exact ⟨c, right, rfl, contained, reaches⟩
      · rintro ⟨_, _, ⟨⟩, contained, reaches⟩
        exact ⟨contained, reaches⟩

/-- The ways end behind the texts with a property, and each of these texts has a way. -/
structure Ways.Spans (ways : Ways) (span : Span) : Prop where
  /-- A way ends behind a text with the property. -/
  sound : ∀ left rest groups, ∀ there ∈ ways (reached left rest groups),
    ∃ text right others, rest = text ++ right ∧ there = reached (left ++ text) right others ∧
      span left text right
  /-- A text with the property has a way that ends behind it. -/
  complete : ∀ left text right groups, span left text right →
    ∃ others, reached (left ++ text) right others ∈ ways (reached left (text ++ right) groups)

namespace Ways.Spans

variable {first second part : Ways} {firstSpan secondSpan span : Span}

/-- Staying where one is. -/
theorem stay : Spans (fun here => [here]) fun _ text _ => text = [] where
  sound left rest groups there member := by
    refine ⟨[], rest, groups, rfl, ?_, rfl⟩
    rw [List.append_nil]
    exact List.mem_singleton.mp member
  complete left text right groups isEmpty := by
    subst isEmpty
    exact ⟨groups, List.mem_singleton.mpr (by rw [List.append_nil, List.nil_append])⟩

theorem andThen (spansFirst : Spans first firstSpan) (spansSecond : Spans second secondSpan) :
    Spans (first.andThen second) (Then firstSpan secondSpan) where
  sound left rest groups there member := by
    obtain ⟨between, memberFirst, memberSecond⟩ := List.mem_flatMap.mp member
    obtain ⟨start, behind, others, rfl, rfl, matchesStart⟩ :=
      spansFirst.sound _ _ _ _ memberFirst
    obtain ⟨more, right, last, rfl, rfl, matchesMore⟩ := spansSecond.sound _ _ _ _ memberSecond
    refine ⟨start ++ more, right, last, (List.append_assoc ..).symm, ?_,
      start, more, rfl, matchesStart, matchesMore⟩
    rw [List.append_assoc]
  complete left text right groups := by
    rintro ⟨start, more, rfl, matchesStart, matchesMore⟩
    obtain ⟨others, memberFirst⟩ := spansFirst.complete left start (more ++ right) groups
      matchesStart
    obtain ⟨last, memberSecond⟩ := spansSecond.complete _ more right others matchesMore
    rw [List.append_assoc] at memberSecond
    rw [List.append_assoc]
    exact ⟨last, List.mem_flatMap.mpr ⟨_, memberFirst, memberSecond⟩⟩

theorem times (spans : Spans part span) (count : Nat) :
    Spans (part.times count) (Times span count) := by
  induction count with
  | zero => exact stay
  | succ count inductionHypothesis => exact spans.andThen inductionHypothesis

theorem mem_upTo_succ_iff {lazy : Bool} {count : Nat} :
    there ∈ part.upTo lazy (count + 1) here ↔
      there = here ∨ ∃ between ∈ part here,
        here.position < between.position ∧ there ∈ part.upTo lazy count between := by
  have again : (there ∈ (part here).flatMap fun between =>
        if here.position < between.position then part.upTo lazy count between else []) ↔
      ∃ between ∈ part here,
        here.position < between.position ∧ there ∈ part.upTo lazy count between := by
    simp only [List.mem_flatMap, List.mem_ite_nil_right]
  rw [← again]
  cases lazy with
  | true => exact List.mem_cons
  | false => exact List.mem_append.trans (or_comm.trans (or_congr_left List.mem_singleton))

/-- A round that reads nothing can be left out, so the rounds that are tried are enough. -/
theorem upTo (spans : Spans part span) (lazy : Bool) (count : Nat) :
    Spans (part.upTo lazy count) (Several span (some count)) where
  sound left rest groups there member := by
    induction count generalizing left rest groups with
    | zero =>
        obtain ⟨text, right, others, same, reaches, isEmpty⟩ := stay.sound _ _ _ _ member
        exact ⟨text, right, others, same, reaches, 0, fun _ _ => Nat.zero_le _, isEmpty⟩
    | succ count inductionHypothesis =>
        rcases mem_upTo_succ_iff.mp member with rfl | ⟨between, memberFirst, -, memberRest⟩
        · exact ⟨[], rest, groups, rfl, by rw [List.append_nil], 0, fun _ _ => Nat.zero_le _, rfl⟩
        · obtain ⟨start, behind, others, rfl, rfl, matchesStart⟩ :=
            spans.sound _ _ _ _ memberFirst
          obtain ⟨more, right, last, rfl, rfl, fewer, atMost, repeated⟩ :=
            inductionHypothesis _ _ _ memberRest
          refine ⟨start ++ more, right, last, (List.append_assoc ..).symm, ?_, fewer + 1, ?_,
            start, more, rfl, matchesStart, repeated⟩
          · rw [List.append_assoc]
          · rintro bound ⟨⟩
            exact Nat.succ_le_succ (atMost count rfl)
  complete left text right groups := by
    rintro ⟨fewer, atMost, repeated⟩
    replace atMost := atMost count rfl
    induction fewer generalizing left text groups count with
    | zero =>
        cases repeated
        refine ⟨groups, ?_⟩
        rw [List.append_nil, List.nil_append]
        cases count with
        | zero => exact List.mem_singleton_self _
        | succ count => exact mem_upTo_succ_iff.mpr (.inl rfl)
    | succ fewer inductionHypothesis =>
        obtain ⟨start, more, rfl, matchesStart, others⟩ := repeated
        cases start with
        | nil =>
            rw [List.append_nil] at others
            exact inductionHypothesis count left more groups others (Nat.le_of_succ_le atMost)
        | cons c start =>
            obtain ⟨middle, memberFirst⟩ := spans.complete left (c :: start) (more ++ right)
              groups matchesStart
            have further : left.length < (left ++ c :: start).length := by
              rw [List.length_append, List.length_cons]
              omega
            cases count with
            | zero => exact absurd atMost (Nat.not_succ_le_zero _)
            | succ count =>
                obtain ⟨last, memberRest⟩ := inductionHypothesis count (left ++ c :: start) more
                  middle others (Nat.le_of_succ_le_succ atMost)
                rw [List.append_assoc] at memberRest
                rw [List.append_assoc]
                exact ⟨last, mem_upTo_succ_iff.mpr (.inr ⟨_, memberFirst, further, memberRest⟩)⟩

/-- No more rounds than there are characters read something. -/
theorem exists_times_le_length
    {count : Nat}
    (repeated : Times span count left text right) :
    ∃ fewer ≤ text.length, Times span fewer left text right := by
  induction count generalizing left text with
  | zero => exact ⟨0, Nat.zero_le _, repeated⟩
  | succ count inductionHypothesis =>
      obtain ⟨start, more, rfl, matchesStart, others⟩ := repeated
      obtain ⟨fewer, short, repeated⟩ := inductionHypothesis others
      cases start with
      | nil =>
          rw [List.append_nil] at repeated
          exact ⟨fewer, short, repeated⟩
      | cons c start =>
          refine ⟨fewer + 1, ?_, _, more, rfl, matchesStart, repeated⟩
          rw [List.length_append, List.length_cons]
          omega

theorem several (spans : Spans part span) (lazy : Bool) (most : Option Nat) :
    Spans (part.several lazy most) (Several span most) where
  sound left rest groups there member := by
    obtain ⟨text, right, others, same, reaches, fewer, atMost, repeated⟩ :=
      (spans.upTo lazy _).sound left rest groups there member
    refine ⟨text, right, others, same, reaches, fewer, ?_, repeated⟩
    rintro bound ⟨⟩
    exact atMost bound rfl
  complete left text right groups := by
    rintro ⟨count, atMost, repeated⟩
    cases most with
    | some most =>
        exact (spans.upTo lazy most).complete left text right groups ⟨count, atMost, repeated⟩
    | none =>
        obtain ⟨fewer, short, repeated⟩ := exists_times_le_length repeated
        refine (spans.upTo lazy (text ++ right).length).complete left text right groups
          ⟨fewer, ?_, repeated⟩
        rintro bound ⟨⟩
        rw [List.length_append]
        exact Nat.le_add_right_of_le short

end Ways.Spans

/-- The ways of an expression end behind the texts that it matches. -/
theorem Expr.spans_ways (expr : Expr) : Ways.Spans expr.ways expr.Matches := by
  induction expr with
  | empty => exact .stay
  | set chars =>
      refine ⟨fun left rest groups there member => ?_, fun left text right groups matched => ?_⟩
      · obtain ⟨c, right, rfl, contained, rfl⟩ :=
          (Progress.read?_reached_eq_some_iff).mp (Option.mem_toList.mp member)
        exact ⟨[c], right, groups, rfl, rfl, c, rfl, contained⟩
      · obtain ⟨c, rfl, contained⟩ := matched
        exact ⟨groups, Option.mem_toList.mpr
          (Progress.read?_reached_eq_some_iff.mpr ⟨c, right, rfl, contained, rfl⟩)⟩
  | look condition =>
      refine ⟨fun left rest groups there member => ?_, fun left text right groups matched => ?_⟩
      · obtain ⟨holds, same⟩ := List.mem_ite_nil_right.mp member
        refine ⟨[], rest, groups, rfl, ?_, rfl, holds⟩
        rw [List.append_nil]
        exact List.mem_singleton.mp same
      · obtain ⟨rfl, holds⟩ := matched
        refine ⟨groups, List.mem_ite_nil_right.mpr ⟨holds, List.mem_singleton.mpr ?_⟩⟩
        rw [List.append_nil, List.nil_append]
  | cat first second firstHypothesis secondHypothesis =>
      exact firstHypothesis.andThen secondHypothesis
  | alt first second firstHypothesis secondHypothesis =>
      refine ⟨fun left rest groups there member => ?_, fun left text right groups matched => ?_⟩
      · rcases List.mem_append.mp member with member | member
        · obtain ⟨text, right, others, same, reaches, matched⟩ :=
            firstHypothesis.sound _ _ _ _ member
          exact ⟨text, right, others, same, reaches, .inl matched⟩
        · obtain ⟨text, right, others, same, reaches, matched⟩ :=
            secondHypothesis.sound _ _ _ _ member
          exact ⟨text, right, others, same, reaches, .inr matched⟩
      · rcases matched with matched | matched
        · obtain ⟨others, member⟩ := firstHypothesis.complete _ _ right groups matched
          exact ⟨others, List.mem_append_left _ member⟩
        · obtain ⟨others, member⟩ := secondHypothesis.complete _ _ right groups matched
          exact ⟨others, List.mem_append_right _ member⟩
  | repetition least most lazy inner inductionHypothesis =>
      rw [matches_repetition]
      exact (inductionHypothesis.times least).andThen (inductionHypothesis.several lazy _)
  | capture name inner inductionHypothesis =>
      refine ⟨fun left rest groups there member => ?_, fun left text right groups matched => ?_⟩
      · obtain ⟨last, memberInner, rfl⟩ := List.mem_map.mp member
        obtain ⟨text, right, others, same, rfl, matched⟩ :=
          inductionHypothesis.sound _ _ _ _ memberInner
        exact ⟨text, right, _, same, rfl, matched⟩
      · obtain ⟨others, member⟩ := inductionHypothesis.complete _ _ right groups matched
        exact ⟨_, List.mem_map_of_mem member⟩

/-! ## Places of a text -/

section Places

variable {Found Nothing : List Char → List Char → Prop} {c : Char}

theorem forall_place_nil_iff :
    (∀ before after, [] = before ++ after → Nothing before after) ↔ Nothing [] [] := by
  constructor
  · exact fun all => all [] [] rfl
  · rintro here before after same
    obtain ⟨rfl, rfl⟩ := List.nil_eq_append_iff.mp same
    exact here

/-- The places of a text are its start and the places of the rest. -/
theorem forall_place_cons_iff :
    (∀ before after, c :: rest = before ++ after → Nothing before after) ↔
      Nothing [] (c :: rest) ∧
        ∀ before after, rest = before ++ after → Nothing (c :: before) after := by
  simp only [List.cons_eq_append_iff]
  constructor
  · exact fun all => ⟨all [] _ (.inl ⟨rfl, rfl⟩),
      fun before after same => all _ after (.inr ⟨before, rfl, same⟩)⟩
  · rintro ⟨here, behind⟩ _ after (⟨rfl, rfl⟩ | ⟨before, rfl, same⟩)
    · exact here
    · exact behind before after same

/-- At a place of a text something is found, and nothing at the places before it. -/
def FirstPlace (Found Nothing : List Char → List Char → Prop) (text : List Char) : Prop :=
  ∃ before after, text = before ++ after ∧ Found before after ∧
    ∀ earlier later, text = earlier ++ later → earlier.length < before.length →
      Nothing earlier later

theorem FirstPlace.start (found : Found [] text) : FirstPlace Found Nothing text :=
  ⟨[], text, rfl, found, fun _ _ _ shorter => absurd shorter (Nat.not_lt_zero _)⟩

theorem firstPlace_and_iff {condition : Prop} :
    FirstPlace (fun before after => condition ∧ Found before after) Nothing text ↔
      condition ∧ FirstPlace Found Nothing text := by
  constructor
  · rintro ⟨before, after, same, ⟨holds, found⟩, first⟩
    exact ⟨holds, before, after, same, found, first⟩
  · rintro ⟨holds, before, after, same, found, first⟩
    exact ⟨before, after, same, ⟨holds, found⟩, first⟩

theorem firstPlace_nil_iff : FirstPlace Found Nothing [] ↔ Found [] [] := by
  constructor
  · rintro ⟨before, after, same, found, -⟩
    obtain ⟨rfl, rfl⟩ := List.nil_eq_append_iff.mp same
    exact found
  · exact FirstPlace.start

/-- The first place is the start, or nothing is there and it is the first place of the rest. -/
theorem firstPlace_cons_iff :
    FirstPlace Found Nothing (c :: rest) ↔
      Found [] (c :: rest) ∨ Nothing [] (c :: rest) ∧
        FirstPlace (fun before => Found (c :: before)) (fun before => Nothing (c :: before))
          rest := by
  constructor
  · rintro ⟨_, after, same, found, first⟩
    rcases List.cons_eq_append_iff.mp same with ⟨rfl, rfl⟩ | ⟨before, rfl, sameRest⟩
    · exact .inl found
    · obtain ⟨nothing, behind⟩ := forall_place_cons_iff.mp first
      refine .inr ⟨nothing (Nat.zero_lt_succ _), before, after, sameRest, found, ?_⟩
      exact fun earlier later same shorter => behind earlier later same (Nat.succ_lt_succ shorter)
  · rintro (found | ⟨nothing, before, after, rfl, found, first⟩)
    · exact .start found
    · refine ⟨c :: before, after, rfl, found, forall_place_cons_iff.mpr ⟨fun _ => nothing, ?_⟩⟩
      exact fun earlier later same shorter =>
        first earlier later same (Nat.lt_of_succ_lt_succ shorter)

end Places

/-! ## Searching in a text -/

theorem Expr.attempt_some_eq (expr : Expr) (here : Progress) :
    expr.attempt some here = (expr.ways here).head? := by
  rw [expr.tries_attempt, ← List.head?_filterMap, List.filterMap_some]

/-- There is no way from a place if no text from there on is matched. -/
theorem Expr.ways_eq_nil_iff (expr : Expr) :
    expr.ways (reached left rest groups) = [] ↔
      ∀ text right, rest = text ++ right → ¬expr.Matches left text right := by
  rw [List.eq_nil_iff_forall_not_mem]
  constructor
  · rintro nothing text right rfl matched
    obtain ⟨others, member⟩ := expr.spans_ways.complete _ _ _ groups matched
    exact nothing _ member
  · intro nothing there member
    obtain ⟨text, right, -, same, -, matched⟩ := expr.spans_ways.sound _ _ _ _ member
    exact nothing text right same matched

theorem Expr.firstMatch?_nil (expr : Expr) (left : List Char) :
    expr.firstMatch? left.getLast? left.length [] = (expr.ways (reached left [] [])).head? :=
  expr.attempt_some_eq (reached left [] [])

/-- The place at hand comes before the places behind it. -/
theorem Expr.firstMatch?_cons (expr : Expr) (left : List Char) (c : Char) (rest : List Char) :
    expr.firstMatch? left.getLast? left.length (c :: rest) =
      (expr.ways (reached left (c :: rest) [])).head?.or
        (expr.firstMatch? (left ++ [c]).getLast? (left ++ [c]).length rest) := by
  rw [List.getLast?_concat, List.length_append, List.length_singleton, firstMatch?,
    ← attempt_some_eq, reached]
  cases expr.attempt some ⟨left.getLast?, left.length, c :: rest, []⟩ <;> rfl

/-- The first match is the first way at the leftmost place that has one. -/
theorem Expr.firstMatch?_eq_some_iff (expr : Expr) {last : Progress} :
    expr.firstMatch? left.getLast? left.length rest = some last ↔
      FirstPlace
        (fun before after => (expr.ways (reached (left ++ before) after [])).head? = some last)
        (fun before after => expr.ways (reached (left ++ before) after []) = []) rest := by
  induction rest generalizing left with
  | nil => rw [firstMatch?_nil, firstPlace_nil_iff, List.append_nil]
  | cons c rest inductionHypothesis =>
      rw [firstMatch?_cons, Option.or_eq_some_iff, inductionHypothesis, firstPlace_cons_iff,
        List.head?_eq_none_iff]
      simp only [List.append_nil, List.append_assoc, List.singleton_append]

/-- There is no first match if no place has a way. -/
theorem Expr.firstMatch?_eq_none_iff (expr : Expr) :
    expr.firstMatch? left.getLast? left.length rest = none ↔
      ∀ before after, rest = before ++ after →
        expr.ways (reached (left ++ before) after []) = [] := by
  induction rest generalizing left with
  | nil => rw [firstMatch?_nil, List.head?_eq_none_iff, forall_place_nil_iff, List.append_nil]
  | cons c rest inductionHypothesis =>
      rw [firstMatch?_cons, Option.or_eq_none_iff, inductionHypothesis, List.head?_eq_none_iff,
        forall_place_cons_iff]
      simp only [List.append_nil, List.append_assoc, List.singleton_append]

/-- Groups are found in the texts in which the pattern is found. -/
theorem Compiled.captures?_isSome_iff
    {expr : Expr}
    {compiled : Compiled}
    (isCompiled : Compiled.ofExpr expr = .ok compiled)
    (s : String) :
    (compiled.captures? s.toList).isSome = true ↔ compiled.isMatch s = true := by
  have none_iff : expr.firstMatch? none 0 s.toList = none ↔ _ :=
    @Expr.firstMatch?_eq_none_iff [] s.toList expr
  rw [Compiled.isMatch_iff isCompiled, Compiled.captures?, Option.isSome_map,
    Compiled.eq_of_ofExpr isCompiled, Option.isSome_iff_ne_none, Ne, none_iff]
  simp only [Expr.ways_eq_nil_iff, List.nil_append, Classical.not_forall, Classical.not_not,
    exists_prop]
  constructor
  · rintro ⟨before, _, same, found, after, rfl, matched⟩
    exact ⟨before, found, after, by rw [same, List.append_assoc], matched⟩
  · rintro ⟨before, found, after, same, matched⟩
    exact ⟨before, found ++ after, by rw [same, List.append_assoc], found, after, rfl, matched⟩

end Pattern
end TailView
