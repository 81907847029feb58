import TailView.Proofs.Correlation
import TailView.Proofs.Session.Order

/-!
# Requests and answers of a session

After every history the requests and answers in the main view refer to each other.  A request whose
answer was seen finds it in the view; only an answer can outlive what it refers to.
-/

namespace TailView
namespace Session

variable {session : Session} {entry : Entry} {next : Classifier} {id : EntryId} {line : String}

theorem keepsLinks_grow (filter : Filter) (id : EntryId) (line : String) :
    KeepsLinks (Timeline.changeAt id (grow filter line)) where
  id_eq := id_changeAt_grow filter
  kind_eq := kind_changeAt_grow filter
  number_eq := by
    intro entry
    unfold Timeline.changeAt
    split <;> rfl
  counterpart_eq := by
    intro entry
    unfold Timeline.changeAt
    split <;> rfl

theorem keepsLinks_apply (filter : Filter) : KeepsLinks filter.apply :=
  ⟨fun _ => rfl, fun _ => rfl, fun _ => rfl, fun _ => rfl⟩

/-- The entry that came in is linked before old ones go. -/
theorem linked_enter
    (ordered : session.Ordered)
    (linked : Linked session.classifier session.mainView)
    (handsOut : session.classifier.HandsOut entry next)
    (correlates : session.classifier.Correlates entry next) :
    Linked (session.enter entry next).classifier (session.enter entry next).mainView := by
  have shown : session.classifier.HandsOut (session.filter.apply entry) next :=
    ⟨handsOut.id_eq, handsOut.nextId_eq, handsOut.rule_eq, handsOut.stored, handsOut.opens,
      handsOut.keeps⟩
  have newest : ∀ other ∈ session.mainView, other.id < (session.filter.apply entry).id := by
    intro other member
    rw [shown.id_eq]
    exact ordered.main.below other member
  have entered : Linked next
      (session.mainView.map (Scrollback.answeredBy entry) ++ [session.filter.apply entry]) :=
    linked.enter newest shown (correlates.setVisible _)
  rw [mainView_enter ordered handsOut, classifier_enter]
  exact entered.suffix (ordered.entered handsOut).increasing (rtake_suffix _ _)

/-- All steps keep the references right. -/
theorem stable_linked :
    Stable fun session => session.Ordered ∧ Linked session.classifier session.mainView where
  addLine := by
    rintro session line ⟨ordered, linked⟩
    refine ⟨ordered.addLine line, ?_⟩
    cases found : session.classifier.continued? line with
    | some id =>
        rw [addLine_of_continued found, mainView_growSection ordered, classifier_growSection]
        exact linked.map (keepsLinks_grow _ _ _)
    | none =>
        rw [addLine_of_fresh found]
        exact linked_enter ordered linked
          (session.classifier.classifyFresh_files line).toHandsOut
          (session.classifier.classifyFresh_correlates line)
  note := by
    rintro session text ⟨ordered, linked⟩
    exact ⟨ordered.note text, linked_enter ordered linked
      (session.classifier.info_handsOut text) (session.classifier.info_correlates text)⟩
  resetStream := fun session ⟨ordered, linked⟩ =>
    ⟨stable_ordered.resetStream session ordered, linked.reset⟩
  resetView := fun session ⟨ordered, _⟩ =>
    ⟨stable_ordered.resetView session ordered, Linked.nil rfl⟩
  resize := fun session capacity ⟨ordered, linked⟩ =>
    ⟨stable_ordered.resize session capacity ordered, linked⟩
  setFilter := by
    rintro session text ⟨ordered, linked⟩
    refine ⟨stable_ordered.setFilter session text ordered, ?_⟩
    rw [mainView_setFilter]
    exact linked.map (keepsLinks_apply _)
  toggleErrorFocus := fun session ⟨ordered, linked⟩ =>
    ⟨stable_ordered.toggleErrorFocus session ordered, linked⟩
  around := by
    rintro session other ⟨ordered, linked⟩ same
    refine ⟨stable_ordered.around ordered same, ?_⟩
    rw [mainView, same.scrollback, same.classifier]
    exact linked

/-- A request finds its answer in the view, or there is none yet. -/
theorem counterpart_ne_evicted
    (ordered : session.Ordered)
    (referenced : CrossReferenced session.mainView)
    {start : Entry}
    (member : start ∈ session.mainView)
    (isStart : start.kind = .requestStart)
    (id : EntryId) :
    session.counterpart start ≠ .evicted id := by
  unfold counterpart
  split
  · nofun
  · next answerId refers =>
      obtain ⟨_, answer, answerMember, same, _⟩ :=
        referenced.found start member isStart answerId refers
      have found : session.scrollback.find? answerId = some answer :=
        (Timeline.find?_eq_some_iff ordered.increasing).mpr ⟨answerMember, same⟩
      rw [found]
      nofun

/-- After every history the requests and the answers in the main view refer to each other, and no
request refers to an answer that is gone. -/
theorem crossReferenced_run (options : SessionOptions) (operations : List Operation) :
    let session := (ofOptions options).run operations
    CrossReferenced session.mainView ∧
      ∀ start ∈ session.mainView, start.kind = .requestStart →
        ∀ id, session.counterpart start ≠ .evicted id := by
  intro session
  have linked : session.Ordered ∧ Linked session.classifier session.mainView :=
    stable_linked.run ⟨ordered_ofOptions options, Linked.nil rfl⟩ operations
  have referenced := linked.2.toCrossReferenced
  exact ⟨referenced,
    fun _ member isStart => counterpart_ne_evicted linked.1 referenced member isStart⟩

/-- Three requests of one number and two answers, with room for three entries: of the first answer
the request is gone, the second one has none. -/
example :
    let lines := "a [7] -> GET /x \na [7] -> GET /y \na [7] <- 200 \na [7] <- 200 \na [7] -> GET /z "
    let session := (ofOptions { bytesPerLine := 349526 }).run
      [.receive (.binary lines.toUTF8.toList), .endStream]
    session.mainView.map (fun entry => (entry.id, entry.counterpart)) =
      [(2, some 1), (3, none), (4, none)] := by
  decide +kernel

end Session
end TailView
