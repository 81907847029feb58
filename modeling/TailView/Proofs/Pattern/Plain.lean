import TailView.Proofs.Pattern.Matching

/-!
# Plain patterns

Under the flags that count at the start of a pattern every character stands for itself, and the
parts of the pattern keep their order.  So the texts that a plain pattern matches are read off its
parts: words, runs of characters from a set, and the two ends of the text.
-/

namespace TailView
namespace Pattern

variable {left text right cs : List Char} {chars : CharSet} {least : Nat} {most : Option Nat}
  {lazy : Bool}

open Pattern.Span

/-! ## Characters of sets -/

section CharSet

variable {low high code : Nat} {first second set : CharSet}

theorem contains_range_iff :
    (CharSet.range low high).contains code = true ↔ low ≤ code ∧ code ≤ high := by
  rw [CharSet.contains, Bool.and_eq_true, decide_eq_true_eq, decide_eq_true_eq]

theorem contains_union_iff :
    (CharSet.union first second).contains code = true ↔
      first.contains code = true ∨ second.contains code = true := by
  rw [CharSet.contains, Bool.or_eq_true]

theorem contains_compl_iff :
    (CharSet.compl set).contains code = true ↔ ¬set.contains code = true := by
  rw [CharSet.contains, Bool.not_eq_true', Bool.not_eq_true]

theorem contains_single_iff {c d : Char} :
    (CharSet.single c).contains d.toNat = true ↔ d = c := by
  rw [CharSet.contains_single, decide_eq_true_eq, Char.toNat_inj]

end CharSet

/-! ## Words and runs -/

namespace Expr

/-- A word and what follows it. -/
def word (cs : List Char) (rest : Expr) : Expr :=
  cs.foldr (fun c rest => .cat (.set (.single c)) rest) rest

theorem matches_set_iff :
    (set chars).Matches left text right ↔ ∃ c, text = [c] ∧ chars.contains c.toNat = true :=
  Iff.rfl

theorem matches_single_iff {c : Char} :
    (set (.single c)).Matches left text right ↔ text = [c] := by
  rw [matches_set_iff]
  constructor
  · rintro ⟨d, rfl, same⟩
    rw [contains_single_iff.mp same]
  · rintro rfl
    exact ⟨c, rfl, contains_single_iff.mpr rfl⟩

theorem matches_cat_iff {first second : Expr} :
    (cat first second).Matches left text right ↔
      ∃ start rest, text = start ++ rest ∧ first.Matches left start (rest ++ right) ∧
        second.Matches (left ++ start) rest right :=
  Iff.rfl

theorem matches_alt_iff {first second : Expr} :
    (alt first second).Matches left text right ↔
      first.Matches left text right ∨ second.Matches left text right :=
  Iff.rfl

theorem matches_word_iff {rest : Expr} :
    (word cs rest).Matches left text right ↔
      ∃ others, text = cs ++ others ∧ rest.Matches (left ++ cs) others right := by
  induction cs generalizing left text with
  | nil =>
      constructor
      · exact fun matched => ⟨text, rfl, by rwa [List.append_nil]⟩
      · rintro ⟨others, rfl, matched⟩
        rwa [List.append_nil] at matched
  | cons c cs inductionHypothesis =>
      constructor
      · rintro ⟨_, _, rfl, isSingle, matched⟩
        rw [matches_single_iff] at isSingle
        subst isSingle
        obtain ⟨others, rfl, found⟩ := inductionHypothesis.mp matched
        refine ⟨others, rfl, ?_⟩
        rwa [List.append_assoc] at found
      · rintro ⟨others, rfl, matched⟩
        refine ⟨[c], cs ++ others, rfl, matches_single_iff.mpr rfl,
          inductionHypothesis.mpr ⟨others, rfl, ?_⟩⟩
        rwa [List.append_assoc]

/-- One part for each character. -/
theorem times_set_iff {count : Nat} :
    Times (set chars).Matches count left text right ↔
      text.length = count ∧ ∀ c ∈ text, chars.contains c.toNat = true := by
  induction count generalizing left text with
  | zero =>
      rw [List.length_eq_zero_iff]
      constructor
      · rintro rfl
        exact ⟨rfl, List.forall_mem_nil _⟩
      · exact And.left
  | succ count inductionHypothesis =>
      constructor
      · rintro ⟨_, rest, rfl, ⟨c, rfl, member⟩, others⟩
        obtain ⟨size, members⟩ := inductionHypothesis.mp others
        exact ⟨congrArg Nat.succ size, List.forall_mem_cons.mpr ⟨member, members⟩⟩
      · rintro ⟨size, members⟩
        cases text with
        | nil => cases size
        | cons c rest =>
            rw [List.forall_mem_cons] at members
            exact ⟨[c], rest, rfl, ⟨c, rfl, members.1⟩,
              inductionHypothesis.mpr ⟨Nat.succ.inj size, members.2⟩⟩

/-- A run of characters of a set is matched if its length is within the bounds. -/
theorem matches_run_iff :
    (repetition least most lazy (set chars)).Matches left text right ↔
      least ≤ text.length ∧ (∀ bound ∈ most, text.length ≤ max least bound) ∧
        ∀ c ∈ text, chars.contains c.toNat = true := by
  constructor
  · rintro ⟨count, atLeast, atMost, repeated⟩
    obtain ⟨rfl, members⟩ := times_set_iff.mp repeated
    exact ⟨atLeast, atMost, members⟩
  · rintro ⟨atLeast, atMost, members⟩
    exact ⟨text.length, atLeast, atMost, times_set_iff.mpr ⟨rfl, members⟩⟩

end Expr

/-! ## Patterns under the first flags -/

namespace Flags

variable {flags : Flags} {first rest inner : Tree}

theorem lower_literal {found : Literal} :
    flags.lower (.literal found) = do return (.set (← flags.literal found), flags) := rfl

theorem lower_repetition :
    flags.lower (.repetition least most lazy inner) = do
      let (inner, flags) ← flags.lower inner
      return (.repeated least most (lazy != flags.swapGreed) inner, flags) := rfl

theorem lower_group {name : Option String} {changes : FlagChanges} :
    flags.lower (.group name changes inner) = do
      let (inner, _) ← (flags.apply changes).lower inner
      return (name.elim inner (.capture · inner), flags) := rfl

theorem lower_cat :
    flags.lower (.cat first rest) = do
      let (first, flags) ← flags.lower first
      let (rest, flags) ← flags.lower rest
      return (.cat first rest, flags) := rfl

theorem lower_alt :
    flags.lower (.alt first rest) = do
      let (first, flags) ← flags.lower first
      let (rest, flags) ← flags.lower rest
      return (.alt first rest, flags) := rfl

end Flags

namespace Tree

/-- A word and what follows it. -/
def word (cs : List Char) (rest : Tree) : Tree :=
  cs.foldr (fun c rest => .cat (.literal { char := c }) rest) rest

/-- A tree denotes an expression where no flag has been changed, and changes none. -/
def Denotes (tree : Tree) (expr : Expr) : Prop := ({} : Flags).lower tree = .ok (expr, {})

variable {tree first rest : Tree} {expr firstExpr restExpr : Expr}

theorem denotes_literal (found : Literal) :
    Denotes (.literal found) (.set (.single found.char)) := by
  have itself : ({} : Flags).literal found = .ok (.single found.char) := by
    simp [Flags.literal]
  rw [Denotes, Flags.lower_literal, itself]
  rfl

theorem Denotes.cat (denotesFirst : Denotes first firstExpr) (denotesRest : Denotes rest restExpr) :
    Denotes (.cat first rest) (.cat firstExpr restExpr) := by
  rw [Denotes] at *
  simp only [Flags.lower_cat, denotesFirst, denotesRest, bind, Except.bind]
  rfl

theorem Denotes.alt (denotesFirst : Denotes first firstExpr) (denotesRest : Denotes rest restExpr) :
    Denotes (.alt first rest) (.alt firstExpr restExpr) := by
  rw [Denotes] at *
  simp only [Flags.lower_alt, denotesFirst, denotesRest, bind, Except.bind]
  rfl

theorem Denotes.group (denotes : Denotes tree expr) : Denotes (.group none [] tree) expr := by
  rw [Denotes] at *
  rw [Flags.lower_group, show ({} : Flags).apply [] = {} from rfl, denotes]
  rfl

theorem Denotes.capture (name : String) (denotes : Denotes tree expr) :
    Denotes (.group (some name) [] tree) (.capture name expr) := by
  rw [Denotes] at *
  rw [Flags.lower_group, show ({} : Flags).apply [] = {} from rfl, denotes]
  rfl

theorem Denotes.word (denotes : Denotes tree expr) :
    Denotes (Tree.word cs tree) (Expr.word cs expr) := by
  induction cs with
  | nil => exact denotes
  | cons c cs inductionHypothesis => exact (denotes_literal _).cat inductionHypothesis

/-- A repetition of characters stays as it is. -/
theorem Denotes.run
    (denotes : Denotes tree (.set chars))
    (someTimes : most ≠ some 0) :
    Denotes (.repetition least most lazy tree) (.repetition least most lazy (.set chars)) := by
  have same : Expr.repeated least most (lazy != false) (.set chars) =
      .repetition least most lazy (.set chars) := by
    rw [Expr.repeated, if_neg someTimes, Bool.bne_false]
    rfl
  rw [Denotes] at *
  rw [Flags.lower_repetition, denotes, ← same]
  rfl

section Compiled

variable {pattern : String}

theorem ofExpr_eq (small : expr.weight ≤ Expr.maxWeight) :
    Compiled.ofExpr expr = .ok ⟨expr, Marked.ofExpr expr⟩ := by
  rw [Compiled.ofExpr, if_neg (Nat.not_lt.mpr small)]

/-- A plain pattern that is not too large is compiled as the expression it denotes. -/
theorem Denotes.ofPattern_eq
    (denotes : Denotes tree expr)
    (reads : Parser.read pattern.toList = .ok tree)
    (small : expr.weight ≤ Expr.maxWeight) :
    Compiled.ofPattern false pattern = .ok ⟨expr, Marked.ofExpr expr⟩ := by
  rw [Denotes] at denotes
  rw [Compiled.ofPattern, reads]
  simp only [bind, Except.bind]
  rw [Compiled.ofTree, denotes]
  exact ofExpr_eq small

end Compiled

end Tree
end Pattern
end TailView
