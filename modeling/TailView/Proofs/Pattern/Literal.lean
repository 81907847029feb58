import Mathlib.Data.List.Forall2
import TailView.Filter
import TailView.Proofs.Pattern.Plain

/-!
# Searching for a text as it stands

A text is searched for by the pattern in which its characters with a meaning of their own are
escaped.  That pattern is read as the sequence of the characters, whatever they are, and each of
them becomes the set of the characters that agree with it.  So the pattern is found exactly where
the text stands, or a text of the same length that agrees with it up to case if case does not count.
-/

namespace TailView
namespace Pattern

variable {c d : Char} {cs : List Char} {caseless : Bool}

/-! ## What an escaped text is read as -/

namespace Tree

/-- The characters of a text in order. -/
def ofText (cs : List Char) : Tree := sequence (cs.map fun c => .literal { char := c })

theorem ofText_cons_cons (c next : Char) (cs : List Char) :
    ofText (c :: next :: cs) = .cat (.literal { char := c }) (ofText (next :: cs)) :=
  rfl

theorem depthIn_ofText (cs : List Char) : (ofText cs).depthIn .cat = 0 := by
  induction cs with
  | nil => rfl
  | cons c cs inductionHypothesis =>
      cases cs with
      | nil => rfl
      | cons next cs => simp [ofText_cons_cons, depthIn, inductionHypothesis]

/-- The sequence is one chain. -/
theorem depth_ofText_le (cs : List Char) : (ofText cs).depth ≤ 1 := by
  match cs with
  | [] => exact Nat.zero_le 1
  | [_] => exact Nat.zero_le 1
  | c :: next :: cs => simp [depth, ofText_cons_cons, depthIn, depthIn_ofText]

end Tree

theorem escape_cons_of_isMeta (special : Cursor.isMeta c = true) (cs : List Char) :
    escape (c :: cs) = '\\' :: c :: escape cs := by
  simp [escape, special]

theorem escape_cons_of_not_isMeta (plain : Cursor.isMeta c = false) (cs : List Char) :
    escape (c :: cs) = c :: escape cs := by
  simp [escape, plain]

/-- After a backslash a character with a meaning of its own stands for itself. -/
theorem escape_of_isMeta (special : Cursor.isMeta c = true) (rest : List Char) :
    ({ rest := '\\' :: c :: rest } : Cursor).escape =
      .ok (.literal { char := c }, { rest }) := by
  -- The letters and digits that start longer escapes have no meaning of their own.
  have noLonger : "\\.+*?()|[]\x7b\x7d^$#&-~".toList.all (fun d => !d.isDigit &&
      !decide (d = 'x' ∨ d = 'u' ∨ d = 'U') && !decide (d = 'p' ∨ d = 'P')) = true := by decide
  have startsNoLonger := List.all_eq_true.mp noLonger c (List.contains_iff_mem.mp special)
  simp only [Bool.and_eq_true, Bool.not_eq_true', decide_eq_false_iff_not] at startsNoLonger
  obtain ⟨⟨noDigit, noNumber⟩, noProperty⟩ := startsNoLonger
  have standsForItself : Cursor.isPlainEscape c = true := by simp [Cursor.isPlainEscape, special]
  simp [Cursor.escape, Cursor.next, Cursor.withRest, noDigit, noNumber, noProperty,
    standsForItself]

namespace Parser

/-- A character without a meaning of its own is read as itself. -/
theorem step_of_not_isMeta (plain : Cursor.isMeta c = false) (state : State) :
    step state c = .ok (state.add (.literal { char := c }) state.cursor.next) := by
  unfold step
  split
  all_goals first | rfl | cases plain

/-- An escape is read as what it stands for. -/
theorem step_escape
    {state : State}
    {part : Tree}
    {cursor : Cursor}
    (escaped : state.cursor.escape = .ok (part, cursor)) :
    step state '\\' = .ok (state.add part cursor) := by
  unfold step
  rw [escaped]
  rfl

/-- Where blanks count, the loop goes on behind the character at the cursor. -/
theorem loop_of_step
    {bound : Nat}
    {state next : State}
    {rest : List Char}
    (atCursor : state.cursor = { rest := c :: rest })
    (stepped : step state c = .ok next) :
    loop (bound + 1) state = loop bound next := by
  simp only [loop, Cursor.skipSpace, atCursor, Bool.false_eq_true, if_false]
  rw [← atCursor, stepped]
  rfl

/-- The reader adds the characters of an escaped text to the parts it has read. -/
theorem loop_escape
    (cs : List Char)
    (parts : List Tree)
    {bound : Nat}
    (enough : (escape cs).length < bound) :
    loop bound { cursor := { rest := escape cs }, parts } =
      .ok (Tree.sequence (parts.reverse ++ cs.map fun c => .literal { char := c })) := by
  induction cs generalizing bound parts with
  | nil =>
      obtain ⟨bound, rfl⟩ := Nat.exists_eq_succ_of_ne_zero (Nat.ne_of_gt enough)
      rw [List.map_nil, List.append_nil]
      rfl
  | cons c cs inductionHypothesis =>
      obtain ⟨bound, rfl⟩ := Nat.exists_eq_succ_of_ne_zero (Nat.ne_of_gt (Nat.zero_lt_of_lt enough))
      have added : (parts.reverse ++ (c :: cs).map fun c => Tree.literal { char := c }) =
          (Tree.literal { char := c } :: parts).reverse ++
            cs.map fun c => Tree.literal { char := c } := by simp
      rw [added]
      cases special : Cursor.isMeta c with
      | true =>
          rw [escape_cons_of_isMeta special] at enough ⊢
          rw [loop_of_step rfl (step_escape (escape_of_isMeta special (escape cs)))]
          exact inductionHypothesis _ (by simp only [List.length_cons] at enough; omega)
      | false =>
          rw [escape_cons_of_not_isMeta special] at enough ⊢
          rw [loop_of_step rfl (step_of_not_isMeta special _)]
          exact inductionHypothesis _ (by simp only [List.length_cons] at enough; omega)

/-- An escaped text is read as the sequence of its characters. -/
theorem read_escape (cs : List Char) : read (escape cs) = .ok (Tree.ofText cs) := by
  have shallow : ¬maxDepth < (Tree.ofText cs).depth := by
    have flat := Tree.depth_ofText_le cs
    unfold maxDepth
    omega
  unfold read
  rw [loop_escape cs [] (Nat.lt_succ_self _)]
  exact if_neg shallow

end Parser

/-! ## What each character becomes -/

/-- The set of the characters that agree with a written one. -/
def charSet (caseless : Bool) (c : Char) : CharSet :=
  if caseless && (CaseFold.variants c.toNat).any (· != c.toNat) then .caseless (.single c)
  else .single c

theorem contains_charSet_false_iff : (charSet false c).contains d.toNat = true ↔ c = d :=
  contains_single_iff.trans eq_comm

/-- Without regard to case the characters with the same folding agree. -/
theorem contains_charSet_true_iff :
    (charSet true c).contains d.toNat = true ↔
      CaseFold.fold c.toNat = CaseFold.fold d.toNat := by
  rw [charSet, Bool.true_and]
  split
  · rw [CharSet.contains, List.any_eq_true]
    constructor
    · rintro ⟨variant, member, same⟩
      rw [CharSet.contains_single, decide_eq_true_eq] at same
      rw [← same]
      exact CaseFold.mem_variants.mp member
    · intro same
      exact ⟨c.toNat, CaseFold.mem_variants.mpr same, by simp⟩
  · next noVariants =>
      -- A character without other variants is the only one with its folding.
      rw [contains_single_iff]
      constructor
      · rintro rfl
        rfl
      · intro same
        have member : d.toNat ∈ CaseFold.variants c.toNat := CaseFold.mem_variants.mpr same.symm
        simp only [List.any_eq_true, bne_iff_ne, not_exists, not_and, not_not] at noVariants
        exact Char.toNat_inj.mp (noVariants _ member)

theorem Flags.literal_eq (caseless : Bool) (c : Char) :
    ({ caseless } : Flags).literal { char := c } = .ok (charSet caseless c) := by
  cases caseless <;> simp [literal, fold, charSet]

namespace Expr

/-- One character of each set, in order. -/
def sets : List CharSet → Expr
  | [] => .empty
  | [chars] => .set chars
  | chars :: next :: rest => .cat (.set chars) (sets (next :: rest))

theorem matches_sets_iff {sets : List CharSet} {left text right : List Char} :
    (Expr.sets sets).Matches left text right ↔
      List.Forall₂ (fun chars c => chars.contains c.toNat = true) sets text := by
  induction sets generalizing left text with
  | nil => exact List.forall₂_nil_left_iff.symm
  | cons chars rest inductionHypothesis =>
      cases rest with
      | nil =>
          rw [Expr.sets, matches_set_iff, List.forall₂_cons_left_iff]
          simp [and_comm]
      | cons next rest =>
          rw [Expr.sets, matches_cat_iff, List.forall₂_cons_left_iff]
          constructor
          · rintro ⟨_, found, rfl, ⟨c, rfl, member⟩, matched⟩
            exact ⟨c, found, member, inductionHypothesis.mp matched, rfl⟩
          · rintro ⟨c, found, member, agree, rfl⟩
            exact ⟨[c], found, rfl, ⟨c, rfl, member⟩, inductionHypothesis.mpr agree⟩

end Expr

theorem Flags.lower_ofText (caseless : Bool) (cs : List Char) :
    ({ caseless } : Flags).lower (Tree.ofText cs) =
      .ok (Expr.sets (cs.map (charSet caseless)), { caseless }) := by
  induction cs with
  | nil => rfl
  | cons c cs inductionHypothesis =>
      cases cs with
      | nil =>
          rw [Tree.ofText, List.map_singleton, Tree.sequence, lower_literal, literal_eq]
          rfl
      | cons next cs =>
          simp only [Tree.ofText_cons_cons, lower_cat, lower_literal, literal_eq, bind, Except.bind,
            pure, Except.pure, inductionHypothesis]
          rfl

/-! ## The compiled text -/

section Compiled

variable {pattern : String}

theorem ofLiteral_eq (caseless : Bool) (pattern : String) :
    Compiled.ofLiteral caseless pattern =
      Compiled.ofExpr (Expr.sets (pattern.toList.map (charSet caseless))) := by
  rw [Compiled.ofLiteral, Compiled.ofPattern, String.toList_ofList, Parser.read_escape]
  simp only [bind, Except.bind]
  rw [Compiled.ofTree, Flags.lower_ofText]
  rfl

/-- A compiled text is found where each of its characters agrees with one of a run. -/
theorem isMatch_ofLiteral_iff
    {compiled : Compiled}
    (isCompiled : Compiled.ofLiteral caseless pattern = .ok compiled)
    (s : String) :
    compiled.isMatch s = true ↔
      ∃ found, found <:+: s.toList ∧
        List.Forall₂ (fun c d => (charSet caseless c).contains d.toNat = true)
          pattern.toList found := by
  rw [ofLiteral_eq] at isCompiled
  rw [Compiled.isMatch_iff isCompiled]
  simp only [Expr.matches_sets_iff, List.forall₂_map_left_iff]
  constructor
  · rintro ⟨before, found, after, same, agree⟩
    exact ⟨found, ⟨before, after, same.symm⟩, agree⟩
  · rintro ⟨found, ⟨before, after, same⟩, agree⟩
    exact ⟨before, found, after, same.symm, agree⟩

/-- Being too large is the only reason to refuse a text. -/
theorem exists_ofLiteral_eq (fits : Compiled.ofLiteral caseless pattern ≠ .error .tooLarge) :
    ∃ compiled, Compiled.ofLiteral caseless pattern = .ok compiled := by
  rw [ofLiteral_eq, Compiled.ofExpr] at *
  split at fits
  · exact absurd rfl fits
  · next small => exact ⟨_, if_neg small⟩

theorem weight_charSet_le (caseless : Bool) (c : Char) :
    (Expr.set (charSet caseless c)).weight ≤ 208 := by
  have length_le : CharSet.utf8Length c.toNat ≤ 4 := by
    unfold CharSet.utf8Length
    split_ifs <;> omega
  unfold charSet
  split
  · simp only [Expr.weight, CharSet.weight, CharSet.single, CharSet.rangeWeight, if_true]
    split <;> omega
  · simp only [Expr.weight, CharSet.single, if_true]
    omega

theorem weight_sets_le (caseless : Bool) (c : Char) (cs : List Char) :
    (Expr.sets ((c :: cs).map (charSet caseless))).weight ≤ 208 * (c :: cs).length := by
  induction cs generalizing c with
  | nil => exact weight_charSet_le caseless c
  | cons next cs inductionHypothesis =>
      have first := weight_charSet_le caseless c
      have rest := inductionHypothesis next
      simp only [List.map_cons, Expr.sets, Expr.weight, List.length_cons] at first rest ⊢
      omega

/-- A text of at most fifty thousand characters is not too large. -/
theorem ofLiteral_ne_tooLarge (caseless : Bool) (short : pattern.length ≤ 50000) :
    Compiled.ofLiteral caseless pattern ≠ .error .tooLarge := by
  rw [← String.length_toList] at short
  have small : ¬Expr.maxWeight <
      (Expr.sets (pattern.toList.map (charSet caseless))).weight := by
    cases characters : pattern.toList with
    | nil =>
        rw [List.map_nil]
        decide
    | cons c cs =>
        have bounded := weight_sets_le caseless c cs
        rw [characters] at short
        unfold Expr.maxWeight
        omega
  rw [ofLiteral_eq, Compiled.ofExpr, if_neg small]
  intro refused
  cases refused

end Compiled
end Pattern

namespace Filter

open Pattern

variable {filter : Filter} {pattern : String}

theorem compile_of_literal (literal : filter.mode = .literal) (pattern : String) :
    filter.compile pattern = Compiled.ofLiteral filter.caseless pattern := by
  rw [compile, literal]

theorem setText_eq_of_compile
    {compiled : Compiled}
    (nonempty : pattern ≠ "")
    (isCompiled : filter.compile pattern = .ok compiled) :
    filter.setText pattern =
      { filter with accepted := some (pattern, compiled), rejection := none } := by
  simp [setText, isCompiled, String.isEmpty_iff, nonempty]

/-- A filter that takes texts as they stand accepts every text that is not too large, whatever
characters it holds.  It then shows exactly the entries in which the text occurs, or, if case does
not count, a text of the same length whose characters fold to the same ones. -/
theorem setText_literal_searches
    (literal : filter.mode = .literal)
    (nonempty : pattern ≠ "")
    (fits : filter.compile pattern ≠ .error .tooLarge) :
    (filter.setText pattern).rejection = none ∧
      (filter.setText pattern).pattern = some pattern ∧
      (filter.caseless = false → ∀ text,
        (filter.setText pattern).isVisible text = true ↔ pattern.toList <:+: text.toList) ∧
      (filter.caseless = true → ∀ text,
        (filter.setText pattern).isVisible text = true ↔
          ∃ found, found <:+: text.toList ∧
            List.Forall₂ (fun c d => CaseFold.fold c.toNat = CaseFold.fold d.toNat)
              pattern.toList found) := by
  rw [compile_of_literal literal] at fits
  obtain ⟨compiled, isCompiled⟩ := exists_ofLiteral_eq fits
  have set := setText_eq_of_compile nonempty ((compile_of_literal literal pattern).trans isCompiled)
  have visible : ∀ text, (filter.setText pattern).isVisible text = compiled.isMatch text := by
    intro text
    rw [set]
    rfl
  refine ⟨by rw [set], by rw [set]; rfl, ?_, ?_⟩
  · intro caseCounts text
    rw [caseCounts] at isCompiled
    simp only [visible, isMatch_ofLiteral_iff isCompiled, contains_charSet_false_iff,
      List.forall₂_eq_eq_eq]
    exact exists_eq_right'
  · intro caseDoesNotCount text
    rw [caseDoesNotCount] at isCompiled
    simp only [visible, isMatch_ofLiteral_iff isCompiled, contains_charSet_true_iff]

/-- Characters of patterns stand for themselves, and the long s folds like the letter. -/
theorem setText_literal_searches_longS :
    let exact : Filter := { mode := .literal, caseless := false }
    let caseless : Filter := { mode := .literal, caseless := true }
    ((exact.setText "a.*\n").isVisible "b a.*\n" = true ∧
      (exact.setText "a.*\n").isVisible "b axx\n" = false) ∧
      (caseless.setText "[S]\t").isVisible "(0[\u017F]\t" = true := by
  intro exact caseless
  have searches := @setText_literal_searches exact "a.*\n" rfl (by decide)
    (by rw [compile_of_literal rfl]; exact ofLiteral_ne_tooLarge _ (by decide))
  have searchesCaseless := @setText_literal_searches caseless "[S]\t" rfl (by decide)
    (by rw [compile_of_literal rfl]; exact ofLiteral_ne_tooLarge _ (by decide))
  refine ⟨⟨(searches.2.2.1 rfl _).mpr (by decide), ?_⟩, ?_⟩
  · rw [Bool.eq_false_iff, ne_eq, searches.2.2.1 rfl]
    decide
  · have longS : CaseFold.fold 'S'.toNat = CaseFold.fold '\u017F'.toNat := by decide +kernel
    have occurs : ['[', '\u017F', ']', '\t'] <:+: "(0[\u017F]\t".toList :=
      ⟨['(', '0'], [], by decide⟩
    have agree : List.Forall₂ (fun c d => CaseFold.fold c.toNat = CaseFold.fold d.toNat)
        ['[', 'S', ']', '\t'] ['[', '\u017F', ']', '\t'] :=
      .cons (Eq.refl _) (.cons longS (.cons (Eq.refl _) (.cons (Eq.refl _) .nil)))
    rw [← show "[S]\t".toList = ['[', 'S', ']', '\t'] by decide] at agree
    exact (searchesCaseless.2.2.2 rfl "(0[\u017F]\t").mpr ⟨_, occurs, agree⟩

end Filter
end TailView
