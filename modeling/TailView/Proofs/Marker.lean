import Mathlib.Data.List.Infix
import Mathlib.Data.Nat.Find
import TailView.Log.Severity

/-!
# The earliest marker of a line

The marker of every severity is searched for, and of those that were found the one with the least
position decides.  No two markers begin at the same place, even where the star that ends one begins
another, so there is one such marker if there is any, and the order of the searches does not matter.
-/

namespace TailView
namespace Severity

variable {severity other : Severity} {table : List Severity} {line : List Char} {position : Nat}

theorem mem_all (severity : Severity) : severity ∈ all := by
  cases severity <;> decide

/-! ## Places of markers -/

/-- The marker of a severity stands at a position of a line. -/
def StandsAt (severity : Severity) (line : List Char) (position : Nat) : Prop :=
  severity.marker.toList <+: line.drop position

instance (severity : Severity) (line : List Char) (position : Nat) :
    Decidable (severity.StandsAt line position) :=
  inferInstanceAs (Decidable (_ <+: _))

/-- No marker begins another one. -/
theorem eq_of_marker_begins (begins : severity.marker.toList <+: other.marker.toList) :
    severity = other := by
  revert begins
  cases severity <;> cases other <;> decide

/-- At most one marker stands at a position. -/
theorem StandsAt.unique
    (stands : severity.StandsAt line position)
    (otherStands : other.StandsAt line position) :
    severity = other := by
  rcases List.prefix_or_prefix_of_prefix stands otherStands with begins | begins
  · exact eq_of_marker_begins begins
  · exact (eq_of_marker_begins begins).symm

theorem not_standsAt_nil (severity : Severity) (position : Nat) : ¬severity.StandsAt [] position := by
  rw [StandsAt, List.drop_nil, List.prefix_nil]
  cases severity <;> decide

theorem standsAt_cons_succ_iff {c : Char} {rest : List Char} :
    severity.StandsAt (c :: rest) (position + 1) ↔ severity.StandsAt rest position :=
  Iff.rfl

/-- A marker stands somewhere in a line if it is a part of the line. -/
theorem exists_standsAt_iff :
    (∃ position, severity.StandsAt line position) ↔ severity.marker.toList <:+: line := by
  rw [List.infix_iff_prefix_suffix]
  constructor
  · rintro ⟨position, stands⟩
    exact ⟨line.drop position, stands, List.drop_suffix position line⟩
  · rintro ⟨rest, stands, suffix⟩
    exact ⟨line.length - rest.length, by rwa [StandsAt, ← List.suffix_iff_eq_drop.mp suffix]⟩

/-! ## Searches -/

theorem findFrom?_succ (severity : Severity) (start : Nat) (line : List Char) :
    severity.findFrom? (start + 1) line = (severity.findFrom? start line).map (· + 1) := by
  induction line generalizing start with
  | nil => rfl
  | cons c rest inductionHypothesis =>
      rw [findFrom?, findFrom?]
      split
      · rfl
      · exact inductionHypothesis (start + 1)

/-- The search finds the first position at which the marker stands. -/
theorem findFrom?_eq_some_iff :
    severity.findFrom? 0 line = some position ↔
      severity.StandsAt line position ∧ ∀ before < position, ¬severity.StandsAt line before := by
  induction line generalizing position with
  | nil => exact iff_of_false nofun fun stands => not_standsAt_nil severity position stands.1
  | cons c rest inductionHypothesis =>
      have here : severity.marker.toList.isPrefixOf (c :: rest) = true ↔
          severity.StandsAt (c :: rest) 0 := List.isPrefixOf_iff_prefix
      rw [findFrom?]
      split
      · next starts =>
          rw [here] at starts
          rw [Option.some.injEq]
          constructor
          · rintro rfl
            exact ⟨starts, nofun⟩
          · rintro ⟨-, first⟩
            by_contra later
            exact first 0 (Nat.pos_of_ne_zero (Ne.symm later)) starts
      · next starts =>
          rw [here] at starts
          rw [findFrom?_succ]
          cases position with
          | zero => exact iff_of_false (by simp) fun stands => starts stands.1
          | succ position =>
              rw [Option.map_eq_some_iff, standsAt_cons_succ_iff]
              simp only [Nat.succ.injEq, exists_eq_right, inductionHypothesis]
              refine and_congr_right fun _ => ⟨fun first before less => ?_, fun first before less => ?_⟩
              · cases before with
                | zero => exact starts
                | succ before => exact first before (Nat.lt_of_succ_lt_succ less)
              · exact first (before + 1) (Nat.succ_lt_succ less)

/-- Where a marker stands it is found, there or further to the front. -/
theorem StandsAt.exists_findFrom? (stands : severity.StandsAt line position) :
    ∃ first ≤ position, severity.findFrom? 0 line = some first :=
  have somewhere : ∃ position, severity.StandsAt line position := ⟨position, stands⟩
  ⟨Nat.find somewhere, Nat.find_min' somewhere stands,
    findFrom?_eq_some_iff.mpr ⟨Nat.find_spec somewhere, fun _ => Nat.find_min somewhere⟩⟩

theorem mem_hits_iff :
    (position, severity) ∈ hits table line ↔
      severity ∈ table ∧ severity.findFrom? 0 line = some position := by
  simp only [hits, List.mem_filterMap, Option.map_eq_some_iff, Prod.mk.injEq]
  constructor
  · rintro ⟨_, member, _, first, rfl, rfl⟩
    exact ⟨member, first⟩
  · rintro ⟨member, first⟩
    exact ⟨severity, member, position, first, rfl, rfl⟩

/-! ## The earliest marker -/

/-- Something is the earliest if anything was found. -/
theorem earliest?_eq_none_iff {found : List (Nat × Severity)} :
    earliest? found = none ↔ found = [] := by
  cases found with
  | nil => simp [earliest?]
  | cons hit rest =>
      rw [earliest?]
      split
      · split <;> simp
      · simp

/-- The earliest marker was found, and none was found further to the front. -/
theorem earliest?_spec
    {found : List (Nat × Severity)}
    {hit : Nat × Severity}
    (first : earliest? found = some hit) :
    hit ∈ found ∧ ∀ other ∈ found, hit.1 ≤ other.1 := by
  induction found generalizing hit with
  | nil => cases first
  | cons head rest inductionHypothesis =>
      rw [earliest?] at first
      rw [List.forall_mem_cons]
      split at first
      · next other firstOfRest =>
          obtain ⟨member, least⟩ := inductionHypothesis firstOfRest
          split at first
          · next before =>
              cases first
              exact ⟨List.mem_cons_of_mem _ member, Nat.le_of_lt before, least⟩
          · next notBefore =>
              cases first
              exact ⟨List.mem_cons_self, Nat.le_refl _, fun hit inRest =>
                Nat.le_trans (Nat.le_of_not_lt notBefore) (least hit inRest)⟩
      · next nothing =>
          cases first
          rw [earliest?_eq_none_iff.mp nothing]
          exact ⟨List.mem_cons_self, Nat.le_refl _, nofun⟩

/-- The marker of a severity stands in a line, and no marker stands further to the front. -/
def ComesFirst (severity : Severity) (line : List Char) : Prop :=
  ∃ position, severity.StandsAt line position ∧
    ∀ other : Severity, ∀ before < position, ¬other.StandsAt line before

/-- Only one severity comes first. -/
theorem ComesFirst.unique (first : severity.ComesFirst line) (otherFirst : other.ComesFirst line) :
    severity = other := by
  obtain ⟨position, stands, none⟩ := first
  obtain ⟨otherPosition, otherStands, otherNone⟩ := otherFirst
  rcases Nat.lt_trichotomy position otherPosition with less | rfl | more
  · exact absurd stands (otherNone severity position less)
  · exact stands.unique otherStands
  · exact absurd otherStands (none other otherPosition more)

/-- A severity whose marker stands somewhere comes first if it stands before every other marker. -/
theorem comesFirst_iff_of_standsAt (somewhere : ∃ position, severity.StandsAt line position) :
    severity.ComesFirst line ↔
      ∀ (other : Severity) (position : Nat), other ≠ severity → other.StandsAt line position →
        ∃ before < position, severity.StandsAt line before := by
  constructor
  · rintro ⟨first, stands, none⟩ other position different otherStands
    rcases Nat.lt_trichotomy position first with less | rfl | more
    · exact absurd otherStands (none other position less)
    · exact absurd (otherStands.unique stands) different
    · exact ⟨first, more, stands⟩
  · intro ahead
    refine ⟨Nat.find somewhere, Nat.find_spec somewhere, fun other before less stands => ?_⟩
    have notHere : ∀ earlier ≤ before, ¬severity.StandsAt line earlier := fun _ le =>
      Nat.find_min somewhere (Nat.lt_of_le_of_lt le less)
    by_cases same : other = severity
    · exact notHere before (Nat.le_refl _) (same ▸ stands)
    · obtain ⟨earlier, less, stands⟩ := ahead other before same stands
      exact notHere earlier (Nat.le_of_lt less) stands

section Complete

variable (complete : ∀ severity, severity ∈ table)
include complete

/-- In a table that lists every severity nothing is found only where no marker stands. -/
theorem firstMarkerIn?_eq_none_iff :
    firstMarkerIn? table line = none ↔
      ∀ (severity : Severity) (position : Nat), ¬severity.StandsAt line position := by
  rw [firstMarkerIn?, Option.map_eq_none_iff, earliest?_eq_none_iff, List.eq_nil_iff_forall_not_mem]
  constructor
  · intro nothing severity position stands
    obtain ⟨first, -, found⟩ := stands.exists_findFrom?
    exact nothing (first, severity) (mem_hits_iff.mpr ⟨complete severity, found⟩)
  · rintro nowhere ⟨position, severity⟩ member
    exact nowhere severity position (findFrom?_eq_some_iff.mp (mem_hits_iff.mp member).2).1

/-- A table that lists every severity, in any order, leads to the one that comes first. -/
theorem firstMarkerIn?_eq_some_iff :
    firstMarkerIn? table line = some severity ↔ severity.ComesFirst line := by
  have comesFirst : ∀ severity, firstMarkerIn? table line = some severity →
      severity.ComesFirst line := by
    intro severity chosen
    obtain ⟨⟨position, _⟩, first, rfl⟩ := Option.map_eq_some_iff.mp chosen
    obtain ⟨member, least⟩ := earliest?_spec first
    refine ⟨position, (findFrom?_eq_some_iff.mp (mem_hits_iff.mp member).2).1, ?_⟩
    intro other before less stands
    obtain ⟨firstOther, le, found⟩ := stands.exists_findFrom?
    have notBefore := least (firstOther, other) (mem_hits_iff.mpr ⟨complete other, found⟩)
    exact absurd less (Nat.not_lt.mpr (Nat.le_trans notBefore le))
  refine ⟨comesFirst severity, fun first => ?_⟩
  cases chosen : firstMarkerIn? table line with
  | none =>
      obtain ⟨position, stands, -⟩ := first
      exact absurd stands ((firstMarkerIn?_eq_none_iff complete).mp chosen severity position)
  | some other => rw [(comesFirst other chosen).unique first]

end Complete

/-- The order in which a table lists the severities does not matter, as long as it has all. -/
theorem firstMarkerIn?_eq_firstMarker? (complete : ∀ severity, severity ∈ table) :
    firstMarkerIn? table line = firstMarker? line := by
  apply Option.ext
  intro severity
  rw [firstMarkerIn?_eq_some_iff complete, firstMarker?, firstMarkerIn?_eq_some_iff mem_all]

/-- A first marker is found exactly when some marker stands in the line. -/
theorem firstMarker?_isSome_iff (line : List Char) :
    (firstMarker? line).isSome ↔ ∃ severity : Severity, severity.marker.toList <:+: line := by
  rw [Option.isSome_iff_ne_none, firstMarker?, ne_eq, firstMarkerIn?_eq_none_iff mem_all]
  simp only [← exists_standsAt_iff, not_forall, not_not]

/-- A marker is found exactly when it stands somewhere in the line. -/
theorem hasMarker_iff (severity : Severity) (line : List Char) :
    severity.hasMarker line ↔ severity.marker.toList <:+: line := by
  induction line with
  | nil =>
      have nonempty : severity.marker.toList ≠ [] := by cases severity <;> decide
      simp [hasMarker, List.infix_nil, nonempty]
  | cons c rest inductionHypothesis =>
      rw [hasMarker, Bool.or_eq_true, inductionHypothesis, List.infix_cons_iff,
        List.isPrefixOf_iff_prefix]

end Severity
end TailView
