import Mathlib.Data.List.Chain
import TailView.Proofs.Classification
import TailView.Proofs.Lines
import TailView.Proofs.Views

/-!
# Lines grouped into entries

A section begins with a line that holds a marker and goes on as long as lines continue it; every
other line stands alone.  There is one way only to group a list of lines like this.  The entries of
a view that come from the log are such a grouping, whatever messages of the viewer stand between
them.
-/

namespace TailView

/-- What one entry of the log can hold. -/
inductive IsGroup (rule : SectionRule) : List String → Prop
  /-- A line without a marker stands alone. -/
  | single {line : String} : ¬rule.Marked line → IsGroup rule [line]
  /-- A line with a marker is followed by what continues it. -/
  | marked {head : String} {tail : List String} :
      rule.Marked head → (∀ line ∈ tail, isContinuation line.toList = true) →
      IsGroup rule (head :: tail)

/-- The first line of a group holds a marker. -/
def HeadMarked (rule : SectionRule) (group : List String) : Prop :=
  ∃ line ∈ group.head?, rule.Marked line

/-- The first of some lines continues what stands before it. -/
def Continues (lines : List String) : Prop :=
  ∃ line ∈ lines.head?, isContinuation line.toList = true

/-- Groups of lines of which no section could be longer. -/
structure Munched (rule : SectionRule) (groups : List (List String)) : Prop where
  /-- Every group is a section or a single line. -/
  group : ∀ group ∈ groups, IsGroup rule group
  /-- What follows a section does not continue it. -/
  maximal : groups.IsChain fun first second => HeadMarked rule first → ¬Continues second

namespace Munched

variable {rule : SectionRule} {groups others : List (List String)} {group : List String}

/-- What follows a section does not continue it, also when the groups are forgotten. -/
theorem not_continues_flatten
    (munched : Munched rule (group :: groups))
    (headMarked : HeadMarked rule group) :
    ¬Continues groups.flatten := by
  obtain ⟨next, _⟩ := List.isChain_cons.mp munched.maximal
  cases groups with
  | nil => simp [Continues]
  | cons second rest =>
      have separate : ¬Continues second := next second rfl headMarked
      have isGroup := munched.group second (by simp)
      cases isGroup with
      | single unmarked => simpa [Continues] using separate
      | marked headMarked continuing => simpa [Continues] using separate

theorem tail (munched : Munched rule (group :: groups)) : Munched rule groups :=
  ⟨(List.forall_mem_cons.mp munched.group).2, (List.isChain_cons.mp munched.maximal).2⟩

/-- Where lines stop continuing, there is one way only to cut them. -/
theorem append_inj
    {first second before after : List String}
    (firstContinues : ∀ line ∈ first, isContinuation line.toList = true)
    (secondContinues : ∀ line ∈ second, isContinuation line.toList = true)
    (beforeStops : ¬Continues before)
    (afterStops : ¬Continues after)
    (same : first ++ before = second ++ after) :
    first = second ∧ before = after := by
  induction first generalizing second with
  | nil =>
      cases second with
      | nil => exact ⟨rfl, same⟩
      | cons line rest =>
          refine absurd ⟨line, ?_, secondContinues line (by simp)⟩ beforeStops
          rw [← List.nil_append before, same]
          rfl
  | cons line rest inductionHypothesis =>
      cases second with
      | nil =>
          refine absurd ⟨line, ?_, firstContinues line (by simp)⟩ afterStops
          rw [← List.nil_append after, ← same]
          rfl
      | cons other others =>
          injection same with sameLine sameRest
          obtain ⟨sameTail, sameAfter⟩ := inductionHypothesis
            (List.forall_mem_cons.mp firstContinues).2
            (List.forall_mem_cons.mp secondContinues).2 sameRest
          exact ⟨by rw [sameLine, sameTail], sameAfter⟩

/-- There is one way only to group lines. -/
theorem eq_of_flatten_eq
    (munched : Munched rule groups)
    (otherMunched : Munched rule others)
    (same : groups.flatten = others.flatten) :
    groups = others := by
  induction groups generalizing others with
  | nil =>
      cases others with
      | nil => rfl
      | cons group rest =>
          have isGroup := otherMunched.group group (by simp)
          cases isGroup <;> simp at same
  | cons group rest inductionHypothesis =>
      have isGroup := munched.group group (by simp)
      cases others with
      | nil => cases isGroup <;> simp at same
      | cons other otherRest =>
          have isOtherGroup := otherMunched.group other (by simp)
          have stops := munched.not_continues_flatten
          have otherStops := otherMunched.not_continues_flatten
          -- the first lines are equal, so both groups are sections or both are single lines
          cases isGroup with
          | single unmarked =>
              cases isOtherGroup with
              | single otherUnmarked =>
                  injection same with sameLine sameRest
                  rw [sameLine, inductionHypothesis munched.tail otherMunched.tail sameRest]
              | marked otherMarked otherContinues =>
                  injection same with sameLine sameRest
                  exact absurd (sameLine ▸ otherMarked) unmarked
          | marked headMarked continues =>
              cases isOtherGroup with
              | single otherUnmarked =>
                  injection same with sameLine sameRest
                  exact absurd (sameLine ▸ headMarked) otherUnmarked
              | marked otherMarked otherContinues =>
                  injection same with sameLine sameRest
                  obtain ⟨sameTail, sameAfter⟩ := append_inj continues otherContinues
                    (stops ⟨_, rfl, headMarked⟩) (otherStops ⟨_, rfl, otherMarked⟩) sameRest
                  rw [sameLine, sameTail,
                    inductionHypothesis munched.tail otherMunched.tail sameAfter]

end Munched

/-! ## Entries that hold the lines -/

/-- The entries of a view that come from the log. -/
def logged (view : List Entry) : List Entry := view.filter fun entry => entry.kind ≠ .info

/-- The entries of a view that come from the log hold some lines, each one once and in order, and
are sections wherever a section is possible and as long as it is. -/
structure FiledAs (rule : SectionRule) (lines : List String) (view : List Entry) : Prop where
  /-- The entries hold the lines. -/
  lines_eq : (logged view).flatMap Entry.lines = lines
  /-- A section is a line with a marker and lines that continue it. -/
  sections : ∀ entry ∈ logged view, entry.isSection = true → ∃ head tail,
    entry.lines = head :: tail ∧ rule.Marked head ∧
      ∀ line ∈ tail, isContinuation line.toList = true
  /-- Every other entry is one line without a marker. -/
  singles : ∀ entry ∈ logged view, entry.isSection = false → ∃ line,
    entry.lines = [line] ∧ ¬rule.Marked line
  /-- A continuation is not stored as an entry of its own. -/
  stored : ∀ entry ∈ view, entry.kind ≠ .continuation
  /-- The line behind a section does not continue it. -/
  maximal : (logged view).IsChain fun first second =>
    first.isSection = true → ¬Continues second.lines

@[simp] theorem logged_append (first second : List Entry) :
    logged (first ++ second) = logged first ++ logged second :=
  List.filter_append _ _

theorem logged_singleton_of_logged {entry : Entry} (isLogged : entry.kind ≠ .info) :
    logged [entry] = [entry] := by
  simp [logged, isLogged]

theorem logged_singleton_of_info {entry : Entry} (isInfo : entry.kind = .info) :
    logged [entry] = [] := by
  simp [logged, isInfo]

/-- Changing entries does not change which ones come from the log. -/
theorem logged_map
    {change : Entry → Entry}
    (keepsKind : ∀ entry, (change entry).kind = entry.kind)
    (view : List Entry) :
    logged (view.map change) = (logged view).map change := by
  unfold logged
  rw [List.filter_map]
  congr 2
  funext entry
  simp [keepsKind]

/-- The id of the newest entry from the log, if that is a section. -/
def newestSection? (view : List Entry) : Option EntryId :=
  ((logged view).getLast?.filter Entry.isSection).map Entry.id

theorem newestSection?_eq_some_iff {view : List Entry} {id : EntryId} :
    newestSection? view = some id ↔
      ∃ before last, logged view = before ++ [last] ∧ last.isSection = true ∧ last.id = id := by
  unfold newestSection?
  simp only [Option.map_eq_some_iff, Option.filter_eq_some_iff, List.getLast?_eq_some_iff]
  constructor
  · rintro ⟨last, ⟨⟨before, newest⟩, isSection⟩, same⟩
    exact ⟨before, last, newest, isSection, same⟩
  · rintro ⟨before, last, newest, isSection, same⟩
    exact ⟨last, ⟨⟨before, newest⟩, isSection⟩, same⟩

/-- What keeps kinds and ids keeps the newest section. -/
theorem newestSection?_map
    {change : Entry → Entry}
    (keepsKind : ∀ entry, (change entry).kind = entry.kind)
    (keepsId : ∀ entry, (change entry).id = entry.id)
    (view : List Entry) :
    newestSection? (view.map change) = newestSection? view := by
  have keepsSection : Entry.isSection ∘ change = Entry.isSection := by
    funext entry
    simp only [Function.comp_apply, Entry.isSection, keepsKind]
  have keepsIds : Entry.id ∘ change = Entry.id := funext keepsId
  unfold newestSection?
  rw [logged_map keepsKind, List.getLast?_map, Option.filter_map, Option.map_map, keepsSection,
    keepsIds]

/-- A message of the viewer is no newer entry from the log. -/
theorem newestSection?_append_of_info {entry : Entry} (isInfo : entry.kind = .info)
    (view : List Entry) : newestSection? (view ++ [entry]) = newestSection? view := by
  unfold newestSection?
  rw [logged_append, logged_singleton_of_info isInfo, List.append_nil]

/-- An entry from the log is the newest one when it comes in. -/
theorem newestSection?_append_of_logged {entry : Entry} (isLogged : entry.kind ≠ .info)
    (view : List Entry) :
    newestSection? (view ++ [entry]) = if entry.isSection then some entry.id else none := by
  unfold newestSection?
  rw [logged_append, logged_singleton_of_logged isLogged, List.getLast?_concat,
    Option.filter_some]
  split <;> rfl

namespace FiledAs

variable {rule : SectionRule} {lines : List String} {view : List Entry} {entry last : Entry}
  {line : String}

theorem nil (rule : SectionRule) : FiledAs rule [] [] :=
  ⟨rfl, nofun, nofun, nofun, List.IsChain.nil⟩

/-- The groups of lines that the entries hold cannot be longer. -/
theorem munched (filed : FiledAs rule lines view) :
    Munched rule ((logged view).map Entry.lines) where
  group := by
    rw [List.forall_mem_map]
    intro entry member
    cases isSection : entry.isSection with
    | true =>
        obtain ⟨head, tail, held, headMarked, continues⟩ := filed.sections entry member isSection
        rw [held]
        exact .marked headMarked continues
    | false =>
        obtain ⟨line, held, unmarked⟩ := filed.singles entry member isSection
        rw [held]
        exact .single unmarked
  maximal := by
    rw [List.isChain_map]
    refine filed.maximal.imp_of_mem_imp ?_
    intro first second firstMember _ separate headMarked
    apply separate
    -- an entry that is no section does not begin with a marker
    by_contra isSingle
    obtain ⟨line, held, unmarked⟩ := filed.singles first firstMember (by simpa using isSingle)
    rw [held] at headMarked
    obtain ⟨head, isHead, marked⟩ := headMarked
    cases isHead
    exact unmarked marked

/-- What keeps kinds and texts keeps the lines filed. -/
theorem map
    {change : Entry → Entry}
    (filed : FiledAs rule lines view)
    (keepsKind : ∀ entry, (change entry).kind = entry.kind)
    (keepsText : ∀ entry, (change entry).text = entry.text) :
    FiledAs rule lines (view.map change) := by
  have keepsLines : ∀ entry, (change entry).lines = entry.lines := by
    intro entry
    rw [Entry.lines, Entry.lines, keepsText]
  have keepsSection : ∀ entry, (change entry).isSection = entry.isSection := by
    intro entry
    rw [Entry.isSection, Entry.isSection, keepsKind]
  refine ⟨?_, ?_, ?_, ?_, ?_⟩
  · rw [logged_map keepsKind, List.flatMap_map]
    simpa only [keepsLines] using filed.lines_eq
  · rw [logged_map keepsKind, List.forall_mem_map]
    simpa only [keepsLines, keepsSection] using filed.sections
  · rw [logged_map keepsKind, List.forall_mem_map]
    simpa only [keepsLines, keepsSection] using filed.singles
  · rw [List.forall_mem_map]
    simpa only [keepsKind] using filed.stored
  · rw [logged_map keepsKind, List.isChain_map]
    simpa only [keepsLines, keepsSection] using filed.maximal

/-- A message of the viewer can stand anywhere. -/
theorem notice (filed : FiledAs rule lines view) (isInfo : entry.kind = .info) :
    FiledAs rule lines (view ++ [entry]) := by
  have same : logged (view ++ [entry]) = logged view := by
    rw [logged_append, logged_singleton_of_info isInfo, List.append_nil]
  refine ⟨?_, ?_, ?_, ?_, ?_⟩
  · rw [same]
    exact filed.lines_eq
  · rw [same]
    exact filed.sections
  · rw [same]
    exact filed.singles
  · rw [List.forall_mem_append]
    refine ⟨filed.stored, ?_⟩
    rw [List.forall_mem_singleton, isInfo]
    nofun
  · rw [same]
    exact filed.maximal

/-- A line that does not continue the newest section is an entry of its own. -/
theorem file
    (filed : FiledAs rule lines view)
    (isLogged : entry.kind ≠ .info)
    (stored : entry.kind ≠ .continuation)
    (held : entry.lines = [line])
    (isSection_iff : entry.isSection ↔ rule.Marked line)
    (separate : (newestSection? view).isSome → isContinuation line.toList = false) :
    FiledAs rule (lines ++ [line]) (view ++ [entry]) := by
  have added : logged (view ++ [entry]) = logged view ++ [entry] := by
    rw [logged_append, logged_singleton_of_logged isLogged]
  refine ⟨?_, ?_, ?_, ?_, ?_⟩
  · rw [added, List.flatMap_append, filed.lines_eq, List.flatMap_singleton, held]
  · rw [added, List.forall_mem_append, List.forall_mem_singleton]
    refine ⟨filed.sections, ?_⟩
    intro isSection
    exact ⟨line, [], held, isSection_iff.mp isSection, nofun⟩
  · rw [added, List.forall_mem_append, List.forall_mem_singleton]
    refine ⟨filed.singles, ?_⟩
    intro isSingle
    refine ⟨line, held, ?_⟩
    rw [← isSection_iff, isSingle]
    nofun
  · rw [List.forall_mem_append, List.forall_mem_singleton]
    exact ⟨filed.stored, stored⟩
  · rw [added, List.isChain_append]
    refine ⟨filed.maximal, List.isChain_singleton _, ?_⟩
    intro last isLast second isSecond isSection
    cases isSecond
    obtain ⟨before, newest⟩ := List.getLast?_eq_some_iff.mp isLast
    have isOpen := newestSection?_eq_some_iff.mpr ⟨before, last, newest, isSection, rfl⟩
    have stops := separate (by rw [isOpen]; rfl)
    rw [held]
    simp [Continues, stops]

/-- A line that continues the newest section is folded into it. -/
theorem grow
    {before grownView : List Entry}
    {grown : Entry}
    (filed : FiledAs rule lines view)
    (newest : logged view = before ++ [last])
    (grownNewest : logged grownView = before ++ [grown])
    (stored : ∀ entry ∈ grownView, entry.kind ≠ .continuation)
    (isSection : last.isSection = true)
    (grownSection : grown.isSection = true)
    (held : grown.lines = last.lines ++ [line])
    (continues : isContinuation line.toList = true) :
    FiledAs rule (lines ++ [line]) grownView := by
  have linesBefore := filed.lines_eq
  have sectionsBefore := filed.sections
  have singlesBefore := filed.singles
  have maximalBefore := filed.maximal
  rw [newest] at linesBefore sectionsBefore singlesBefore maximalBefore
  rw [List.forall_mem_append, List.forall_mem_singleton] at sectionsBefore singlesBefore
  obtain ⟨head, tail, lastHeld, headMarked, tailContinues⟩ := sectionsBefore.2 isSection
  refine ⟨?_, ?_, ?_, stored, ?_⟩
  · rw [grownNewest, ← linesBefore, List.flatMap_append, List.flatMap_append,
      List.flatMap_singleton, List.flatMap_singleton, held, List.append_assoc]
  · rw [grownNewest, List.forall_mem_append, List.forall_mem_singleton]
    refine ⟨sectionsBefore.1, ?_⟩
    intro _
    refine ⟨head, tail ++ [line], ?_, headMarked, ?_⟩
    · rw [held, lastHeld, List.cons_append]
    · rw [List.forall_mem_append, List.forall_mem_singleton]
      exact ⟨tailContinues, continues⟩
  · rw [grownNewest, List.forall_mem_append, List.forall_mem_singleton, grownSection]
    exact ⟨singlesBefore.1, nofun⟩
  · rw [List.isChain_append] at maximalBefore
    rw [grownNewest, List.isChain_append]
    refine ⟨maximalBefore.1, List.isChain_singleton _, ?_⟩
    -- the first line of the section is the same as before
    intro first isFirst second isSecond firstSection
    cases isSecond
    have separate := maximalBefore.2.2 first isFirst last rfl firstSection
    rw [lastHeld] at held separate
    rw [held]
    simpa [Continues] using separate

end FiledAs
end TailView
