import TailView.Proofs.Escape.Sequence

/-!
# What stripping leaves

A text is read once from the left.  Where a sequence that is left out stands inside another one that
is not complete, the parts of the other one come together, and they may be a complete sequence then.
This is the only way in which a complete sequence can be left: a stripped text has one exactly if
some part of the text, taken by itself, becomes one, and never if no unfinished sequence of the text
is interrupted by a complete one.
-/

namespace TailView
namespace Text
namespace Escape

variable {cs kept rest sequence : List Char} {c : Char}

/-! ## Reading from the left -/

/-- What is kept when a text is read from the left: a complete sequence is left out wherever one
starts, and every other character is kept. -/
inductive Stripped : List Char → List Char → Prop
  /-- The text ends. -/
  | nil : Stripped [] []
  /-- A sequence is left out. -/
  | leave {sequence rest kept : List Char} :
      IsSequence sequence → Stripped rest kept → Stripped (sequence ++ rest) kept
  /-- A character is kept. -/
  | keep {c : Char} {rest kept : List Char} :
      (∀ sequence, IsSequence sequence → ¬sequence <+: c :: rest) → Stripped rest kept →
      Stripped (c :: rest) (c :: kept)

/-- What still belongs to the last sequence is passed over. -/
theorem stripFrom_eq (skip : Nat) (cs : List Char) : stripFrom skip cs = stripChars (cs.drop skip) := by
  induction cs generalizing skip with
  | nil => cases skip <;> rfl
  | cons c rest inductionHypothesis =>
      cases skip with
      | zero => rfl
      | succ more => exact inductionHypothesis more

theorem stripChars_append (isSequence : IsSequence sequence) (rest : List Char) :
    stripChars (sequence ++ rest) = stripChars rest := by
  have found := length?_append isSequence rest
  obtain ⟨opener, others, rfl, _⟩ := isSequence.exists_cons
  rw [stripChars, List.cons_append, stripFrom, ← List.cons_append, found]
  simp [stripFrom_eq]

theorem stripChars_cons (nothing : length? (c :: rest) = none) :
    stripChars (c :: rest) = c :: stripChars rest := by
  rw [stripChars, stripFrom, nothing]
  rfl

/-- A stripped text is what is kept. -/
theorem stripped_stripChars (cs : List Char) : Stripped cs (stripChars cs) := by
  induction size : cs.length using Nat.strongRecOn generalizing cs with
  | ind size inductionHypothesis =>
      subst size
      cases found : length? cs with
      | some length =>
          obtain ⟨sequence, rest, isSequence, rfl, rfl⟩ := exists_of_length? found
          rw [stripChars_append isSequence]
          refine .leave isSequence (inductionHypothesis rest.length ?_ rest rfl)
          rw [List.length_append]
          exact Nat.lt_add_of_pos_left (List.length_pos_of_ne_nil isSequence.ne_nil)
      | none =>
          cases cs with
          | nil => exact .nil
          | cons c rest =>
              rw [stripChars_cons found]
              exact .keep (length?_eq_none_iff.mp found)
                (inductionHypothesis rest.length (Nat.lt_succ_self _) rest rfl)

/-- Nothing is added and the order stays. -/
theorem Stripped.sublist (stripped : Stripped cs kept) : kept.Sublist cs := by
  induction stripped with
  | nil => exact .slnil
  | leave _ _ inductionHypothesis =>
      exact inductionHypothesis.trans (List.sublist_append_right _ _)
  | keep _ _ inductionHypothesis => exact inductionHypothesis.cons_cons _

/-! ## Texts without sequences -/

/-- A text that has no complete sequence in it. -/
def SequenceFree (cs : List Char) : Prop := ∀ sequence, IsSequence sequence → ¬sequence <:+: cs

theorem sequenceFree_cons_iff :
    SequenceFree (c :: rest) ↔
      (∀ sequence, IsSequence sequence → ¬sequence <+: c :: rest) ∧ SequenceFree rest := by
  simp only [SequenceFree, List.infix_cons_iff, not_or, forall_and]

theorem sequenceFree_nil : SequenceFree [] := by
  intro sequence isSequence inside
  exact isSequence.ne_nil (List.infix_nil.mp inside)

/-- A part of a text without sequences has none. -/
theorem SequenceFree.of_infix {part : List Char} (free : SequenceFree cs) (inside : part <:+: cs) :
    SequenceFree part :=
  fun sequence isSequence found => free sequence isSequence (found.trans inside)

/-- Behind a text without sequences a blank and harmless characters complete none. -/
theorem SequenceFree.append_blank
    {following : List Char}
    (free : SequenceFree cs)
    (noEsc : esc ∉ following)
    (noBel : bel ∉ following) :
    SequenceFree (cs ++ ' ' :: following) := by
  intro sequence isSequence inside
  rcases List.infix_append_iff.mp inside with before | behind | ⟨start, more, rfl, ends, starts⟩
  · exact free sequence isSequence before
  · obtain ⟨opener, others, rfl, _⟩ := isSequence.exists_cons
    rcases List.mem_cons.mp (behind.mem List.mem_cons_self) with isBlank | member
    · exact absurd isBlank (by decide)
    · exact noEsc member
  · cases more with
    | nil =>
        rw [List.append_nil] at isSequence
        exact free start isSequence ends.isInfix
    | cons c rest =>
        obtain ⟨rfl, startsRest⟩ := List.cons_prefix_cons.mp starts
        rcases isSequence.mem_of_blank (List.suffix_append start (' ' :: rest)) with isEsc | isBel
        · exact noEsc (startsRest.mem isEsc)
        · exact noBel (startsRest.mem isBel)

/-- A text without sequences is kept. -/
theorem Stripped.eq_of_sequenceFree (stripped : Stripped cs kept) (free : SequenceFree cs) :
    kept = cs := by
  induction stripped with
  | nil => rfl
  | leave isSequence _ _ =>
      exact absurd (List.prefix_append _ _).isInfix (free _ isSequence)
  | keep _ _ inductionHypothesis =>
      rw [inductionHypothesis (sequenceFree_cons_iff.mp free).2]

/-- If everything is kept there is no sequence. -/
theorem Stripped.sequenceFree_of_length_eq
    (stripped : Stripped cs kept)
    (same : kept.length = cs.length) :
    SequenceFree cs := by
  induction stripped with
  | nil => exact sequenceFree_nil
  | leave isSequence strippedRest _ =>
      have shorter := strippedRest.sublist.length_le
      have nonempty := List.length_pos_of_ne_nil isSequence.ne_nil
      rw [List.length_append] at same
      omega
  | keep nothing _ inductionHypothesis =>
      exact sequenceFree_cons_iff.mpr ⟨nothing, inductionHypothesis (Nat.succ.inj same)⟩

/-- Stripping changes nothing exactly if there is no sequence. -/
theorem stripChars_eq_self_iff : stripChars cs = cs ↔ SequenceFree cs := by
  have stripped := stripped_stripChars cs
  constructor
  · intro same
    exact stripped.sequenceFree_of_length_eq (congrArg List.length same)
  · exact stripped.eq_of_sequenceFree

/-- Whether there is a sequence shows when the text is stripped. -/
instance (cs : List Char) : Decidable (SequenceFree cs) :=
  decidable_of_iff (stripChars cs = cs) stripChars_eq_self_iff

/-! ## Interrupted sequences -/

/-- The beginning of a sequence that is not complete yet. -/
def IsUnfinished (start : List Char) : Prop :=
  start ≠ [] ∧ ∃ others, others ≠ [] ∧ IsSequence (start ++ others)

/-- Somewhere in a text a complete sequence follows directly on an unfinished one. -/
def Interrupted (cs : List Char) : Prop :=
  ∃ start sequence, IsUnfinished start ∧ IsSequence sequence ∧ start ++ sequence <:+: cs

theorem Interrupted.mono {longer : List Char} (interrupted : Interrupted cs) (inside : cs <:+: longer) :
    Interrupted longer := by
  obtain ⟨start, sequence, unfinished, isSequence, found⟩ := interrupted
  exact ⟨start, sequence, unfinished, isSequence, found.trans inside⟩

/-- The beginning of what is kept stands at the beginning of the text, or a sequence that was left
out follows on a part of it. -/
theorem Stripped.prefix_cases
    {start : List Char}
    (stripped : Stripped cs kept)
    (starts : start <+: kept) :
    start <+: cs ∨
      ∃ begun others sequence, begun ++ others = start ∧ others ≠ [] ∧ IsSequence sequence ∧
        begun ++ sequence <+: cs := by
  induction stripped generalizing start with
  | nil => exact .inl starts
  | leave isSequence _ _ =>
      by_cases empty : start = []
      · exact .inl (empty ▸ List.nil_prefix)
      · exact .inr ⟨[], start, _, rfl, empty, isSequence, List.prefix_append _ _⟩
  | keep _ _ inductionHypothesis =>
      cases start with
      | nil => exact .inl List.nil_prefix
      | cons first more =>
          obtain ⟨rfl, startsRest⟩ := List.cons_prefix_cons.mp starts
          rcases inductionHypothesis startsRest with
            here | ⟨begun, others, sequence, rfl, unfinished, isSequence, found⟩
          · exact .inl (List.cons_prefix_cons.mpr ⟨rfl, here⟩)
          · exact .inr ⟨first :: begun, others, sequence, rfl, unfinished, isSequence,
              List.cons_prefix_cons.mpr ⟨rfl, found⟩⟩

/-- Where no sequence starts but one is kept, it was interrupted by another one. -/
theorem Stripped.exists_inner
    (stripped : Stripped cs kept)
    (nothing : ∀ sequence, IsSequence sequence → ¬sequence <+: cs)
    (isSequence : IsSequence sequence)
    (starts : sequence <+: kept) :
    ∃ begun unread inner, begun ++ unread = sequence ∧ begun ≠ [] ∧ unread ≠ [] ∧
      IsSequence inner ∧ begun ++ inner <+: cs := by
  rcases stripped.prefix_cases starts with
    here | ⟨begun, unread, inner, same, unfinished, isInner, found⟩
  · exact absurd here (nothing sequence isSequence)
  · refine ⟨begun, unread, inner, same, ?_, unfinished, isInner, found⟩
    rintro rfl
    exact nothing inner isInner found

/-- A sequence that is left was interrupted. -/
theorem Stripped.interrupted
    (stripped : Stripped cs kept)
    (isSequence : IsSequence sequence)
    (left : sequence <:+: kept) :
    Interrupted cs := by
  induction stripped with
  | nil => exact absurd left (sequenceFree_nil sequence isSequence)
  | leave _ _ inductionHypothesis =>
      exact (inductionHypothesis left).mono (List.suffix_append _ _).isInfix
  | keep nothing strippedRest inductionHypothesis =>
      rcases List.infix_cons_iff.mp left with starts | later
      · obtain ⟨begun, unread, inner, rfl, begins, unfinished, isInner, found⟩ :=
          (Stripped.keep nothing strippedRest).exists_inner nothing isSequence starts
        exact ⟨begun, inner, ⟨begins, unread, unfinished, isSequence⟩, isInner, found.isInfix⟩
      · exact (inductionHypothesis later).mono (List.suffix_cons _ _).isInfix

/-- A stripped text has no sequence unless one was interrupted. -/
theorem sequenceFree_stripChars (uninterrupted : ¬Interrupted cs) : SequenceFree (stripChars cs) :=
  fun _ isSequence left =>
    uninterrupted ((stripped_stripChars cs).interrupted isSequence left)

/-! ## Sequences in disguise -/

/-- Stripping has one result. -/
theorem Stripped.eq_stripChars (stripped : Stripped cs kept) : kept = stripChars cs := by
  induction stripped with
  | nil => rfl
  | leave isSequence _ inductionHypothesis =>
      rw [stripChars_append isSequence]
      exact inductionHypothesis
  | keep nothing _ inductionHypothesis =>
      rw [stripChars_cons (length?_eq_none_iff.mpr nothing), inductionHypothesis]

/-- What is kept in two parts was kept of two parts. -/
theorem Stripped.exists_append
    {first second : List Char}
    (stripped : Stripped cs (first ++ second)) :
    ∃ before after, cs = before ++ after ∧ Stripped before first ∧ Stripped after second := by
  generalize same : first ++ second = kept at stripped
  induction stripped generalizing first with
  | nil =>
      obtain ⟨rfl, rfl⟩ := List.append_eq_nil_iff.mp same
      exact ⟨[], [], rfl, .nil, .nil⟩
  | @leave sequence _ _ isSequence _ inductionHypothesis =>
      obtain ⟨before, after, rfl, strippedBefore, strippedAfter⟩ := inductionHypothesis same
      exact ⟨sequence ++ before, after, (List.append_assoc _ _ _).symm,
        .leave isSequence strippedBefore, strippedAfter⟩
  | @keep c rest kept nothing strippedRest inductionHypothesis =>
      cases first with
      | nil =>
          rw [List.nil_append] at same
          exact ⟨[], c :: rest, rfl, .nil, same ▸ .keep nothing strippedRest⟩
      | cons other more =>
          obtain ⟨rfl, sameRest⟩ := List.cons.inj same
          obtain ⟨before, after, rfl, strippedBefore, strippedAfter⟩ := inductionHypothesis sameRest
          refine ⟨other :: before, after, rfl, .keep ?_ strippedBefore, strippedAfter⟩
          intro sequence isSequence starts
          exact nothing sequence isSequence (starts.trans (List.prefix_append (other :: before) after))

/-- Two texts are stripped apart if no sequence begins in one and ends in the other. -/
theorem Stripped.append
    {first second firstKept secondKept : List Char}
    (strippedFirst : Stripped first firstKept)
    (strippedSecond : Stripped second secondKept)
    (uncrossed : ∀ start others, start ≠ [] → start <:+ first → others <+: second →
      IsSequence (start ++ others) → others = []) :
    Stripped (first ++ second) (firstKept ++ secondKept) := by
  induction strippedFirst with
  | nil => exact strippedSecond
  | leave isSequence _ inductionHypothesis =>
      rw [List.append_assoc]
      refine .leave isSequence (inductionHypothesis ?_)
      intro start others nonempty isSuffix
      exact uncrossed start others nonempty (isSuffix.trans (List.suffix_append _ _))
  | @keep c rest kept nothing _ inductionHypothesis =>
      rw [List.cons_append, List.cons_append]
      refine .keep ?_ (inductionHypothesis ?_)
      · rintro sequence isSequence ⟨more, same⟩
        rw [← List.cons_append] at same
        rcases List.append_eq_append_iff.mp same with ⟨others, within, _⟩ | ⟨others, rfl, isSecond⟩
        · exact nothing sequence isSequence ⟨others, within.symm⟩
        · have ended := uncrossed (c :: rest) others (List.cons_ne_nil c rest) List.suffix_rfl
            ⟨more, isSecond.symm⟩ isSequence
          rw [ended, List.append_nil] at isSequence
          exact nothing _ isSequence List.prefix_rfl
      · intro start others nonempty isSuffix
        exact uncrossed start others nonempty (isSuffix.trans (List.suffix_cons _ _))

/-- No sequence ends behind an escape character unless a backslash follows. -/
theorem Stripped.append_of_esc
    {first firstKept others : List Char}
    {opener : Char}
    (strippedFirst : Stripped first firstKept)
    (stripped : Stripped (esc :: opener :: others) kept)
    (noBackslash : opener ≠ '\\') :
    Stripped (first ++ esc :: opener :: others) (firstKept ++ kept) := by
  refine strippedFirst.append stripped ?_
  intro start more nonempty _ isPrefix isSequence
  cases more with
  | nil => rfl
  | cons c rest =>
      obtain ⟨rfl, isPrefixRest⟩ := List.cons_prefix_cons.mp isPrefix
      rw [isSequence.eq_of_esc_inside rfl nonempty] at isPrefixRest
      exact absurd (List.cons_prefix_cons.mp isPrefixRest).1.symm noBackslash

/-- The first character that is kept is the first of the text, or a sequence stands before it. -/
theorem Stripped.head_cases (stripped : Stripped cs (c :: kept)) :
    ∃ first others, cs = first :: others ∧ (first = c ∨ first = esc) := by
  generalize same : c :: kept = all at stripped
  cases stripped with
  | nil => cases same
  | leave isSequence _ =>
      obtain ⟨opener, others, rfl, _⟩ := isSequence.exists_cons
      exact ⟨esc, _, rfl, .inr rfl⟩
  | keep _ _ => exact ⟨_, _, rfl, .inl (List.cons.inj same).1.symm⟩

/-- A text of which a sequence is left starts like a sequence, or with an escape character and another
one. -/
theorem Stripped.exists_esc (stripped : Stripped cs kept) (isSequence : IsSequence kept) :
    ∃ opener others, cs = esc :: opener :: others ∧ opener ≠ '\\' := by
  cases stripped with
  | nil => exact absurd rfl isSequence.ne_nil
  | leave isInner _ =>
      obtain ⟨opener, others, rfl, _, noBackslash⟩ := isInner.exists_cons
      exact ⟨opener, _, rfl, noBackslash⟩
  | @keep c rest kept _ strippedRest =>
      obtain ⟨opener, others, same, _, noBackslash⟩ := isSequence.exists_cons
      obtain ⟨rfl, rfl⟩ := List.cons.inj same
      obtain ⟨first, others, rfl, rfl | rfl⟩ := strippedRest.head_cases
      · exact ⟨first, others, rfl, noBackslash⟩
      · exact ⟨esc, others, rfl, by decide⟩

/-- Where a sequence follows on an unfinished one, no other sequence begins with the unfinished
one. -/
theorem not_prefix_of_interrupted
    {begun inner other : List Char}
    (begins : begun ≠ [])
    (isInner : IsSequence inner)
    (isOther : IsSequence other)
    (incomplete : ¬other <+: begun)
    (found : begun ++ inner <+: cs) :
    ¬other <+: cs := by
  intro starts
  have begunStarts : begun <+: cs := (List.prefix_append begun inner).trans found
  rcases List.prefix_or_prefix_of_prefix starts begunStarts with shorter | ⟨more, rfl⟩
  · exact incomplete shorter
  · obtain ⟨opener, others, rfl, _, noBackslash⟩ := isInner.exists_cons
    obtain ⟨rest, rfl⟩ := found
    rw [List.append_assoc, List.prefix_append_right_inj] at starts
    cases more with
    | nil => exact incomplete (by rw [List.append_nil])
    | cons c unread =>
        obtain ⟨rfl, startsRest⟩ := List.cons_prefix_cons.mp starts
        rw [isOther.eq_of_esc_inside rfl begins] at startsRest
        exact absurd (List.cons_prefix_cons.mp startsRest).1.symm noBackslash

/-- A text of which the end of a sequence is kept keeps it whatever follows. -/
theorem Stripped.exists_append_right
    (stripped : Stripped cs kept)
    (isSequence : IsSequence sequence)
    (ends : kept <:+ sequence)
    (after : List Char) :
    ∃ more, Stripped (cs ++ after) (kept ++ more) := by
  induction stripped with
  | nil => exact ⟨stripChars after, stripped_stripChars after⟩
  | leave isInner _ inductionHypothesis =>
      obtain ⟨more, strippedRest⟩ := inductionHypothesis ends
      refine ⟨more, ?_⟩
      rw [List.append_assoc]
      exact .leave isInner strippedRest
  | @keep c rest kept nothing strippedRest inductionHypothesis =>
      obtain ⟨more, strippedMore⟩ := inductionHypothesis ((List.suffix_cons c kept).trans ends)
      refine ⟨more, .keep ?_ strippedMore⟩
      intro other isOther starts
      obtain ⟨opener, others, rfl, noEsc, noBackslash⟩ := isOther.exists_cons
      obtain ⟨rfl, startsRest⟩ := List.cons_prefix_cons.mp starts
      obtain ⟨before, same⟩ := ends
      by_cases whole : before = []
      · -- the sequence begins here, and it was interrupted
        rw [whole, List.nil_append] at same
        obtain ⟨begun, unread, inner, _, begins, _, isInner, found⟩ :=
          (Stripped.keep nothing strippedRest).exists_inner nothing (same ▸ isSequence)
            List.prefix_rfl
        have incomplete : ¬esc :: opener :: others <+: begun := by
          intro shorter
          exact nothing _ isOther (shorter.trans ((List.prefix_append begun inner).trans found))
        have foundLonger := found.trans (List.prefix_append (esc :: rest) after)
        exact not_prefix_of_interrupted begins isInner isOther incomplete foundLonger starts
      · -- only the end of a system command is left, and no sequence begins with it
        have isEnd := isSequence.eq_of_esc_inside same.symm whole
        subst isEnd
        obtain ⟨first, unread, rfl, rfl | rfl⟩ := strippedRest.head_cases
        · exact noBackslash (List.cons_prefix_cons.mp startsRest).1
        · exact noEsc (List.cons_prefix_cons.mp startsRest).1

/-- Stripping leaves no sequence exactly if no part of the text is a sequence once the complete ones
in that part are left out. -/
theorem sequenceFree_stripChars_iff :
    SequenceFree (stripChars cs) ↔ ∀ part, part <:+: cs → ¬IsSequence (stripChars part) := by
  constructor
  · rintro free part ⟨before, after, rfl⟩ isSequence
    have strippedPart := stripped_stripChars part
    obtain ⟨opener, others, rfl, noBackslash⟩ := strippedPart.exists_esc isSequence
    obtain ⟨more, strippedAfter⟩ :=
      strippedPart.exists_append_right isSequence List.suffix_rfl after
    have strippedAll : Stripped (before ++ (esc :: opener :: others ++ after)) _ :=
      (stripped_stripChars before).append_of_esc strippedAfter noBackslash
    rw [List.append_assoc, ← strippedAll.eq_stripChars] at free
    exact free _ isSequence (List.infix_append' _ _ more)
  · rintro nowhere sequence isSequence ⟨first, last, same⟩
    have stripped := stripped_stripChars cs
    rw [← same, List.append_assoc] at stripped
    obtain ⟨before, others, rfl, _, strippedOthers⟩ := stripped.exists_append
    obtain ⟨part, after, rfl, strippedPart, _⟩ := strippedOthers.exists_append
    rw [strippedPart.eq_stripChars] at isSequence
    exact nowhere part (List.infix_append' before part after) isSequence

end Escape
end Text
end TailView
