import TailView.Log.Classifier
import TailView.Proofs.Marker

/-!
# What the classifier hands out

Every entry has the next id.  A line either continues the open section or is filed as an entry of
its own: a section if it holds a marker of the rule, and then that section is the open one.
-/

namespace TailView

namespace SectionRule

/-- The severities whose markers open a section. -/
def severities : SectionRule → List Severity
  | .errorOnly => [.error]
  | .multiLevel => Severity.all

/-- Whether a line holds a marker of the rule. -/
def Marked (rule : SectionRule) (line : String) : Prop :=
  ∃ severity ∈ rule.severities, severity.marker.toList <:+: line.toList

/-- A section is opened exactly by the lines that hold a marker. -/
theorem marker?_isSome_iff (rule : SectionRule) (line : String) :
    (rule.marker? line.toList).isSome ↔ rule.Marked line := by
  cases rule with
  | errorOnly =>
      simp only [marker?, Marked, severities, List.mem_singleton, exists_eq_left]
      rw [← Severity.hasMarker_iff]
      cases Severity.error.hasMarker line.toList <;> simp
  | multiLevel =>
      rw [marker?, Severity.firstMarker?_isSome_iff]
      simp [Marked, severities, Severity.mem_all]

end SectionRule

namespace Classifier

variable {classifier next : Classifier} {entry : Entry} {line : String} {id : EntryId}

/-- An entry of its own was handed out. -/
structure HandsOut (classifier : Classifier) (entry : Entry) (next : Classifier) : Prop where
  /-- The entry has the next id. -/
  id_eq : entry.id = classifier.nextId
  /-- The id is used up. -/
  nextId_eq : next.nextId = classifier.nextId + 1
  /-- The rule never changes. -/
  rule_eq : next.rule = classifier.rule
  /-- The entry is no mere continuation. -/
  stored : entry.kind ≠ .continuation
  /-- A section that was handed out is open. -/
  opens : entry.isSection = true → next.openSection = some entry.id
  /-- Another entry closes the open section or leaves it as it is. -/
  keeps : entry.isSection = false →
    next.openSection = none ∨ next.openSection = classifier.openSection

/-- A line that continues no section was handed out as an entry. -/
structure Files (classifier : Classifier) (line : String) (entry : Entry) (next : Classifier) : Prop
    extends HandsOut classifier entry next where
  /-- The entry holds the line. -/
  text_eq : entry.text = line
  /-- The entry is no message of the viewer. -/
  logged : entry.kind ≠ .info
  /-- The entry is a section if the line holds a marker. -/
  isSection_iff : entry.isSection ↔ classifier.rule.Marked line
  /-- Every other line closes the open section. -/
  closes : entry.isSection = false → next.openSection = none

/-- A line that continues no section is filed. -/
theorem classifyFresh_files (classifier : Classifier) (line : String) :
    classifier.Files line (classifier.classifyFresh line).1 (classifier.classifyFresh line).2 := by
  have marked := SectionRule.marker?_isSome_iff classifier.rule line
  unfold classifyFresh
  simp only
  split
  · next severity found =>
      rw [found] at marked
      exact ⟨⟨rfl, rfl, rfl, nofun, fun _ => rfl, nofun⟩, rfl, nofun,
        by simpa [Entry.isSection] using marked, nofun⟩
  · next notFound =>
      rw [notFound] at marked
      have unmarked : ¬classifier.rule.Marked line := by simpa using marked
      split
      · exact ⟨⟨rfl, rfl, rfl, nofun, nofun, fun _ => .inl rfl⟩, rfl, nofun,
          by simpa [Entry.isSection] using unmarked, fun _ => rfl⟩
      · split
        · exact ⟨⟨rfl, rfl, rfl, nofun, nofun, fun _ => .inl rfl⟩, rfl, nofun,
            by simpa [Entry.isSection] using unmarked, fun _ => rfl⟩
        · exact ⟨⟨rfl, rfl, rfl, nofun, nofun, fun _ => .inl rfl⟩, rfl, nofun,
            by simpa [Entry.isSection] using unmarked, fun _ => rfl⟩

/-- A message of the viewer is handed out; the open section stays open. -/
theorem info_handsOut (classifier : Classifier) (text : String) :
    classifier.HandsOut (classifier.info text).1 (classifier.info text).2 :=
  ⟨rfl, rfl, rfl, nofun, nofun, fun _ => .inr rfl⟩

/-- A line continues the open section if there is one and the line is a continuation. -/
theorem continued?_eq_some_iff :
    classifier.continued? line = some id ↔
      isContinuation line.toList = true ∧ classifier.openSection = some id := by
  unfold continued?
  split
  · next continues => simp [continues]
  · next ends => simp [ends]

/-- A line continues nothing if no section is open or the line is no continuation. -/
theorem continued?_eq_none_iff :
    classifier.continued? line = none ↔
      (classifier.openSection.isSome → isContinuation line.toList = false) := by
  unfold continued?
  cases isContinuation line.toList <;> cases classifier.openSection <;> simp

/-! ## Lines that open sections -/

/-- A line opens a section: it is handed out as one, and that section is open behind it. -/
def Opens (classifier : Classifier) (line : String) : Prop :=
  (classifier.classify line).1.isSection = true ∧
    (classifier.classify line).2.openSection = some (classifier.classify line).1.id

/-- A section is opened by the lines that continue none and hold a marker of the rule. -/
theorem opens_iff :
    classifier.Opens line ↔ classifier.continued? line = none ∧ classifier.rule.Marked line := by
  unfold Opens classify
  cases continues : classifier.continued? line with
  | some id => simp [Entry.isSection]
  | none =>
      have files := classifier.classifyFresh_files line
      simp only [files.isSection_iff, true_and]
      exact ⟨And.left, fun marked => ⟨marked, files.opens (files.isSection_iff.mpr marked)⟩⟩

/-- An entry has the severity that the rule finds in its line. -/
theorem severity_classifyFresh (classifier : Classifier) (line : String) :
    (classifier.classifyFresh line).1.severity = classifier.rule.marker? line.toList := by
  unfold classifyFresh
  simp only
  split
  · next severity found => exact found.symm
  · next notFound =>
      rw [notFound]
      split
      · rfl
      · split <;> rfl

/-- The earliest marker of a line decides.  It is the one of a severity exactly if that marker
stands somewhere and no marker stands before it, and there is none exactly if no marker stands
anywhere; two markers never begin at the same position, and it does not matter in which order they
are searched for.  So a line that opens a section where only errors do opens one where every
severity does, whatever came before, and that is a section of errors exactly if every other marker
in the line stands behind a marker of errors. -/
theorem earliest_marker_decides (line : String) :
    let cs := line.toList
    (∀ severity : Severity, Severity.firstMarker? cs = some severity ↔
      ∃ position, severity.StandsAt cs position ∧
        ∀ other : Severity, ∀ before < position, ¬other.StandsAt cs before) ∧
      (Severity.firstMarker? cs = none ↔
        ∀ (severity : Severity) (position : Nat), ¬severity.StandsAt cs position) ∧
      (∀ (severity other : Severity) (position : Nat), severity.StandsAt cs position →
        other.StandsAt cs position → severity = other) ∧
      (∀ table : List Severity, (∀ severity, severity ∈ table) →
        Severity.firstMarkerIn? table cs = Severity.firstMarker? cs) ∧
      ∀ classifier : Classifier,
        let strict := { classifier with rule := .errorOnly }
        let wide := { classifier with rule := .multiLevel }
        strict.Opens line → wide.Opens line ∧
          ((wide.classify line).1.severity = some .error ↔
            ∀ (other : Severity) (position : Nat), other ≠ .error → other.StandsAt cs position →
              ∃ before < position, Severity.error.StandsAt cs before) := by
  intro cs
  refine ⟨fun severity => Severity.firstMarkerIn?_eq_some_iff Severity.mem_all,
    Severity.firstMarkerIn?_eq_none_iff Severity.mem_all, fun _ _ _ => Severity.StandsAt.unique,
    fun table => Severity.firstMarkerIn?_eq_firstMarker?, ?_⟩
  intro classifier strict wide opens
  obtain ⟨continuesNothing, marked⟩ := opens_iff.mp opens
  obtain ⟨_, isError, stands⟩ := marked
  cases List.mem_singleton.mp isError
  have continuesNothing : wide.continued? line = none := continuesNothing
  refine ⟨opens_iff.mpr ⟨continuesNothing, .error, Severity.mem_all _, stands⟩, ?_⟩
  have filed : wide.classify line = wide.classifyFresh line := by
    rw [classify, continuesNothing]
  rw [filed, severity_classifyFresh,
    ← Severity.comesFirst_iff_of_standsAt (Severity.exists_standsAt_iff.mpr stands)]
  exact Severity.firstMarkerIn?_eq_some_iff Severity.mem_all

/-- Two markers share a star, and the one that begins first decides. -/
example : Severity.firstMarker? "job 7 *WARN*ERROR*".toList = some .warn := by decide

end Classifier
end TailView
