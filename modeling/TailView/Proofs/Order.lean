import Mathlib.Data.List.Nodup
import TailView.Proofs.Classification
import TailView.Proofs.Views

/-!
# Views in the order of arrival

The ids of a view increase and were handed out by the classifier, and the open section is the newest
section of the view, if it is in the view at all.  Nothing that is done to a view disturbs this: it
loses old entries, its entries change in place, and new entries come in behind the others.
-/

namespace TailView

/-- A view whose entries are in the order in which the classifier handed them out. -/
structure InOrder (classifier : Classifier) (view : List Entry) : Prop where
  /-- The ids increase. -/
  increasing : view.Pairwise fun first second => first.id < second.id
  /-- Every id was handed out. -/
  below : ∀ entry ∈ view, entry.id < classifier.nextId
  /-- The open section was handed out. -/
  openBelow : ∀ id, classifier.openSection = some id → id < classifier.nextId
  /-- No section is newer than the open one. -/
  newest : ∀ id, classifier.openSection = some id →
    ∀ entry ∈ view, entry.isSection = true → entry.id ≤ id
  /-- The open section is a section. -/
  openIsSection : ∀ entry ∈ view, classifier.openSection = some entry.id → entry.isSection = true

namespace InOrder

variable {classifier next : Classifier} {view : List Entry} {entry : Entry}

/-- An empty view is in order. -/
theorem nil (openBelow : ∀ id, classifier.openSection = some id → id < classifier.nextId) :
    InOrder classifier [] :=
  ⟨List.Pairwise.nil, nofun, openBelow, nofun, nofun⟩

/-- Dropping entries keeps the order. -/
theorem sublist
    {smaller : List Entry}
    (inOrder : InOrder classifier view)
    (kept : smaller.Sublist view) :
    InOrder classifier smaller where
  increasing := inOrder.increasing.sublist kept
  below := fun entry member => inOrder.below entry (kept.mem member)
  openBelow := inOrder.openBelow
  newest := fun id isOpen entry member => inOrder.newest id isOpen entry (kept.mem member)
  openIsSection := fun entry member => inOrder.openIsSection entry (kept.mem member)

/-- Changing entries in place keeps the order. -/
theorem map
    {change : Entry → Entry}
    (inOrder : InOrder classifier view)
    (keepsId : ∀ entry, (change entry).id = entry.id)
    (keepsSection : ∀ entry, (change entry).isSection = entry.isSection) :
    InOrder classifier (view.map change) where
  increasing := by
    rw [List.pairwise_map]
    simpa only [keepsId] using inOrder.increasing
  below := by
    rw [List.forall_mem_map]
    simpa only [keepsId] using inOrder.below
  openBelow := inOrder.openBelow
  newest := by
    intro id isOpen
    rw [List.forall_mem_map]
    simpa only [keepsId, keepsSection] using inOrder.newest id isOpen
  openIsSection := by
    rw [List.forall_mem_map]
    simpa only [keepsId, keepsSection] using inOrder.openIsSection

/-- A view that does not take the entry that was handed out stays in order. -/
theorem skip
    (inOrder : InOrder classifier view)
    (handsOut : classifier.HandsOut entry next) :
    InOrder next view := by
  have idLt : ∀ other ∈ view, other.id < entry.id := by
    intro other member
    rw [handsOut.id_eq]
    exact inOrder.below other member
  have openCases : ∀ id, next.openSection = some id →
      id = entry.id ∨ classifier.openSection = some id := by
    intro id isOpen
    cases isSection : entry.isSection with
    | true =>
        rw [handsOut.opens isSection] at isOpen
        exact .inl (Option.some.inj isOpen).symm
    | false =>
        rcases handsOut.keeps isSection with closed | same
        · rw [closed] at isOpen
          cases isOpen
        · exact .inr (same ▸ isOpen)
  refine ⟨inOrder.increasing, ?_, ?_, ?_, ?_⟩
  · intro other member
    rw [handsOut.nextId_eq]
    exact Nat.lt_succ_of_lt (inOrder.below other member)
  · intro id isOpen
    rw [handsOut.nextId_eq]
    rcases openCases id isOpen with rfl | wasOpen
    · rw [handsOut.id_eq]
      exact Nat.lt_succ_self _
    · exact Nat.lt_succ_of_lt (inOrder.openBelow id wasOpen)
  · intro id isOpen other member isSection
    rcases openCases id isOpen with rfl | wasOpen
    · exact Nat.le_of_lt (idLt other member)
    · exact inOrder.newest id wasOpen other member isSection
  · intro other member isOpen
    rcases openCases other.id isOpen with same | wasOpen
    · exact absurd same (Nat.ne_of_lt (idLt other member))
    · exact inOrder.openIsSection other member wasOpen

/-- A view that takes the entry that was handed out stays in order. -/
theorem append
    {taken : Entry}
    (inOrder : InOrder classifier view)
    (handsOut : classifier.HandsOut entry next)
    (sameId : taken.id = entry.id)
    (sameKind : taken.isSection = entry.isSection) :
    InOrder next (view ++ [taken]) := by
  have skipped := inOrder.skip handsOut
  refine ⟨?_, ?_, skipped.openBelow, ?_, ?_⟩
  · rw [List.pairwise_append]
    refine ⟨inOrder.increasing, List.pairwise_singleton _ _, ?_⟩
    intro first member second isTaken
    rw [List.mem_singleton.mp isTaken, sameId, handsOut.id_eq]
    exact inOrder.below first member
  · rw [List.forall_mem_append]
    refine ⟨skipped.below, ?_⟩
    intro other isTaken
    rw [List.mem_singleton.mp isTaken, sameId, handsOut.id_eq, handsOut.nextId_eq]
    exact Nat.lt_succ_self _
  · intro id isOpen
    rw [List.forall_mem_append]
    refine ⟨skipped.newest id isOpen, ?_⟩
    intro other isTaken isSection
    rw [List.mem_singleton.mp isTaken] at isSection ⊢
    rw [sameKind] at isSection
    rw [handsOut.opens isSection] at isOpen
    rw [sameId, Option.some.inj isOpen]
  · rw [List.forall_mem_append]
    refine ⟨skipped.openIsSection, ?_⟩
    intro other isTaken isOpen
    rw [List.mem_singleton.mp isTaken] at isOpen ⊢
    rw [sameId] at isOpen
    rw [sameKind]
    cases isSection : entry.isSection with
    | true => rfl
    | false =>
        -- an entry that is no section does not become the open one, since its id is new
        rcases handsOut.keeps isSection with closed | same
        · rw [closed] at isOpen
          cases isOpen
        · rw [same] at isOpen
          have below := inOrder.openBelow _ isOpen
          rw [handsOut.id_eq] at below
          exact absurd below (Nat.lt_irrefl _)

/-- When the stream is reset no section is open. -/
theorem reset (inOrder : InOrder classifier view) : InOrder classifier.reset view :=
  ⟨inOrder.increasing, inOrder.below, nofun, nofun, nofun⟩

/-- An entry of a view in order is the only one with its id. -/
theorem eq_of_id_eq
    (inOrder : InOrder classifier view)
    {first second : Entry}
    (firstMember : first ∈ view)
    (secondMember : second ∈ view)
    (same : first.id = second.id) :
    first = second := by
  have distinct : (view.map (·.id)).Nodup :=
    List.pairwise_map.mpr (inOrder.increasing.imp Nat.ne_of_lt)
  exact List.inj_on_of_nodup_map distinct firstMember secondMember same

end InOrder
end TailView
