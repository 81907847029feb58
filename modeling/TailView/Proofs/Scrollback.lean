import TailView.Proofs.Views

/-!
# A scrollback as the end of an unbounded list

Entries are added to a scrollback, its room changes, it is cleared, and entries change in place.
Whatever the order of this, the ids that it has given back as dropped since it was last cleared,
followed by those of the entries that it holds, are the ids that were added since then.  So nothing
is lost, and an id finds the only entry that has it.
-/

namespace TailView

namespace Timeline

/-- Changing an entry but not its id leaves the ids as they are. -/
theorem ids_update
    {change : Entry → Entry}
    (keepsId : ∀ entry, (change entry).id = entry.id)
    (entries : Timeline)
    (id : EntryId) :
    (entries.update id change).ids = entries.ids := by
  unfold update
  split
  · next index _ =>
      apply List.ext_getElem?
      intro position
      simp only [ids, Array.toList_modify, List.getElem?_map, List.getElem?_modify]
      cases entries.toList[position]? with
      | none => simp
      | some entry => by_cases here : index = position <;> simp [here, keepsId]
  · rfl

end Timeline

namespace Scrollback

variable {scrollback : Scrollback} {entry : Entry} {id request answer : EntryId}

/-! ## What is done to a scrollback -/

/-- Something that is done to a scrollback. -/
inductive Action
  /-- An entry is added. -/
  | append (entry : Entry)
  /-- The room changes. -/
  | setCapacity (capacity : Nat)
  /-- All entries are forgotten. -/
  | clear
  /-- A line is folded into a section. -/
  | addLine (id : EntryId) (line : String)
  /-- A request and its answer are linked. -/
  | link (request answer : EntryId)
  /-- An entry is changed in place. -/
  | edit (id : EntryId) (change : Entry → Entry)

/-- An entry that is changed in place keeps its id. -/
def Action.KeepsIds : Action → Prop
  | .edit _ change => ∀ entry, (change entry).id = entry.id
  | _ => True

/-- The id of the entry that is added. -/
def Action.added : Action → List EntryId
  | .append entry => [entry.id]
  | _ => []

/-- Whether all entries are forgotten. -/
def Action.IsClear : Action → Prop
  | .clear => True
  | _ => False

/-- The ids of the entries that are added, in order. -/
def addedIds (actions : List Action) : List EntryId := actions.flatMap Action.added

/-- The scrollback after an action. -/
def perform (scrollback : Scrollback) : Action → Scrollback
  | .append entry => (scrollback.append entry).1
  | .setCapacity capacity => scrollback.setCapacity capacity
  | .clear => scrollback.clear
  | .addLine id line => scrollback.addLine id line
  | .link request answer => scrollback.link request answer
  | .edit id change => scrollback.update id change

/-- The ids that an action gives back as dropped. -/
def returned (scrollback : Scrollback) : Action → List EntryId
  | .append entry => (scrollback.append entry).2
  | _ => []

/-- The scrollback after some actions. -/
def run (scrollback : Scrollback) (actions : List Action) : Scrollback :=
  actions.foldl perform scrollback

/-- The ids that some actions give back as dropped, in order. -/
def droppedIds : Scrollback → List Action → List EntryId
  | _, [] => []
  | scrollback, action :: rest =>
      scrollback.returned action ++ (scrollback.perform action).droppedIds rest

/-- Nothing is held yet: nothing was done, or the last thing done was to forget all entries. -/
def Emptied (actions : List Action) : Prop :=
  actions = [] ∨ ∃ earlier, actions = earlier ++ [.clear]

@[simp] theorem addedIds_cons (action : Action) (rest : List Action) :
    addedIds (action :: rest) = action.added ++ addedIds rest :=
  rfl

@[simp] theorem addedIds_append (before after : List Action) :
    addedIds (before ++ after) = addedIds before ++ addedIds after :=
  List.flatMap_append

@[simp] theorem run_append (scrollback : Scrollback) (before after : List Action) :
    scrollback.run (before ++ after) = (scrollback.run before).run after :=
  List.foldl_append

/-! ## One action -/

/-- The entries that are too many are dropped, the oldest first. -/
theorem dropped_append (scrollback : Scrollback) (entry : Entry) :
    (scrollback.append entry).2 =
      (scrollback.entries.ids ++ [entry.id]).take
        (scrollback.entries.size + 1 - scrollback.capacity) := by
  unfold append
  simp only [Array.size_push]
  split
  · next fits => rw [fits, List.take_zero]
  · simp [Timeline.ids, List.extract_eq_take_drop, List.map_take]

/-- What is dropped was held before, since the new entry itself is never too many. -/
theorem dropped_append_of_room (room : 0 < scrollback.capacity) (entry : Entry) :
    (scrollback.append entry).2 =
      scrollback.entries.ids.take (scrollback.entries.size + 1 - scrollback.capacity) := by
  rw [dropped_append, List.take_append_of_le_length]
  rw [Timeline.ids, List.length_map, Array.length_toList]
  omega

/-- Adding an entry drops old entries and loses none. -/
theorem ids_append (scrollback : Scrollback) (entry : Entry) :
    (scrollback.append entry).2 ++ (scrollback.append entry).1.entries.ids =
      scrollback.entries.ids ++ [entry.id] := by
  have held : (scrollback.append entry).1.entries.ids =
      (scrollback.entries.ids ++ [entry.id]).drop
        (scrollback.entries.size + 1 - scrollback.capacity) := by
    rw [Timeline.ids, entries_append, map_rtake, List.map_append, List.rtake, List.length_append,
      List.length_map, Array.length_toList]
    rfl
  rw [dropped_append, held, List.take_append_drop]

/-- After an entry was added the capacity is met. -/
theorem size_append_le (scrollback : Scrollback) (entry : Entry) :
    (scrollback.append entry).1.entries.size ≤ (scrollback.append entry).1.capacity := by
  rw [← Array.length_toList, entries_append, length_rtake, capacity_append]
  exact Nat.min_le_right _ _

/-- The entry that was added last is held. -/
theorem mem_append (room : 0 < scrollback.capacity) (entry : Entry) :
    entry ∈ (scrollback.append entry).1.entries.toList := by
  have short : (scrollback.entries.toList ++ [entry]).length - scrollback.capacity ≤
      scrollback.entries.toList.length := by
    rw [List.length_append, List.length_singleton]
    omega
  rw [entries_append, List.rtake, List.drop_append_of_le_length short]
  exact List.mem_append_right _ List.mem_cons_self

/-- What is dropped and held after an action was held or added before it. -/
theorem ids_perform
    (scrollback : Scrollback)
    {action : Action}
    (keepsIds : action.KeepsIds)
    (noClear : ¬action.IsClear) :
    scrollback.returned action ++ (scrollback.perform action).entries.ids =
      scrollback.entries.ids ++ action.added := by
  cases action with
  | append entry => exact scrollback.ids_append entry
  | setCapacity capacity => exact (List.append_nil _).symm
  | clear => exact absurd trivial noClear
  | addLine id line =>
      have sameId : ∀ entry : Entry, (entry.addLine line).id = entry.id := fun _ => rfl
      have kept := Timeline.ids_update sameId scrollback.entries id
      exact kept.trans (List.append_nil _).symm
  | link request answer =>
      have told : ∀ entry, (noteAnswer answer entry).id = entry.id := by
        intro entry
        unfold noteAnswer
        split <;> rfl
      have asked : ∀ entry : Entry, { entry with counterpart := some request }.id = entry.id :=
        fun _ => rfl
      have first := Timeline.ids_update told scrollback.entries request
      have second := Timeline.ids_update asked
        (scrollback.entries.update request (noteAnswer answer)) answer
      exact (second.trans first).trans (List.append_nil _).symm
  | edit id change =>
      exact (Timeline.ids_update keepsIds _ id).trans (List.append_nil _).symm

/-- The count of dropped entries counts the ids that were given back. -/
theorem evicted_perform (scrollback : Scrollback) (action : Action) :
    (scrollback.perform action).evicted =
      scrollback.evicted + (scrollback.returned action).length := by
  cases action with
  | append entry =>
      have dropped : (scrollback.append entry).2.length =
          scrollback.entries.size + 1 - scrollback.capacity := by
        rw [dropped_append, List.length_take, List.length_append, Timeline.ids, List.length_map,
          Array.length_toList]
        exact Nat.min_eq_left (Nat.sub_le _ _)
      rw [perform, returned, evicted_append, dropped, Array.length_toList]
  | setCapacity | clear | addLine | link | edit => rfl

/-- There is always room for an entry. -/
theorem room_perform (room : 0 < scrollback.capacity) (action : Action) :
    0 < (scrollback.perform action).capacity := by
  cases action with
  | append entry =>
      rw [perform, capacity_append]
      exact room
  | setCapacity capacity => exact scrollback.capacity_setCapacity_pos capacity
  | clear | addLine | link | edit => exact room

/-! ## Many actions -/

theorem room_run (room : 0 < scrollback.capacity) (actions : List Action) :
    0 < (scrollback.run actions).capacity := by
  induction actions generalizing scrollback with
  | nil => exact room
  | cons action rest inductionHypothesis => exact inductionHypothesis (room_perform room action)

theorem evicted_run (scrollback : Scrollback) (actions : List Action) :
    (scrollback.run actions).evicted =
      scrollback.evicted + (scrollback.droppedIds actions).length := by
  induction actions generalizing scrollback with
  | nil => rfl
  | cons action rest inductionHypothesis =>
      have later := inductionHypothesis (scrollback.perform action)
      rw [evicted_perform] at later
      rw [droppedIds, List.length_append, ← Nat.add_assoc]
      exact later

/-- As long as nothing is cleared, what is dropped and held was held or added before. -/
theorem ids_run
    (scrollback : Scrollback)
    {actions : List Action}
    (keepIds : ∀ action ∈ actions, action.KeepsIds)
    (noClear : ∀ action ∈ actions, ¬action.IsClear) :
    scrollback.droppedIds actions ++ (scrollback.run actions).entries.ids =
      scrollback.entries.ids ++ addedIds actions := by
  induction actions generalizing scrollback with
  | nil => simp [droppedIds, run, addedIds]
  | cons action rest inductionHypothesis =>
      rw [List.forall_mem_cons] at keepIds noClear
      have step := scrollback.ids_perform keepIds.1 noClear.1
      have later := inductionHypothesis (scrollback.perform action) keepIds.2 noClear.2
      calc scrollback.droppedIds (action :: rest) ++ (scrollback.run (action :: rest)).entries.ids
          = scrollback.returned action ++ ((scrollback.perform action).droppedIds rest ++
              ((scrollback.perform action).run rest).entries.ids) := List.append_assoc _ _ _
        _ = scrollback.returned action ++ (scrollback.perform action).entries.ids ++
              addedIds rest := by rw [later, List.append_assoc]
        _ = scrollback.entries.ids ++ addedIds (action :: rest) := by
            rw [step, addedIds_cons, List.append_assoc]

/-- What is held are the last of the entries that were held or added before. -/
theorem ids_run_suffix
    {actions : List Action}
    (keepIds : ∀ action ∈ actions, action.KeepsIds) :
    (scrollback.run actions).entries.ids <:+ scrollback.entries.ids ++ addedIds actions := by
  induction actions generalizing scrollback with
  | nil => simp [run, addedIds]
  | cons action rest inductionHypothesis =>
      rw [List.forall_mem_cons] at keepIds
      have later := @inductionHypothesis (scrollback.perform action) keepIds.2
      have step : (scrollback.perform action).entries.ids <:+
          scrollback.entries.ids ++ action.added := by
        by_cases isClear : action.IsClear
        · cases action with
          | clear => exact List.nil_suffix
          | append | setCapacity | addLine | link | edit => exact absurd isClear id
        · rw [← scrollback.ids_perform keepIds.1 isClear]
          exact List.suffix_append _ _
      rw [addedIds_cons, ← List.append_assoc]
      exact later.trans ((List.suffix_append_self_iff).mpr step)

theorem ids_run_of_emptied
    {actions : List Action}
    (emptied : Emptied actions)
    (capacity : Nat) :
    ((ofCapacity capacity).run actions).entries.ids = [] := by
  rcases emptied with rfl | ⟨earlier, rfl⟩
  · rfl
  · rw [run_append]
    rfl

/-- When the ids that are added increase, those that are held do. -/
theorem increasing_run
    {actions : List Action}
    (ordered : (addedIds actions).Pairwise (· < ·))
    (keepIds : ∀ action ∈ actions, action.KeepsIds)
    (capacity : Nat) :
    ((ofCapacity capacity).run actions).entries.Increasing :=
  ordered.sublist (ids_run_suffix keepIds).sublist

/-! ## Changes in place -/

/-- Folding a line into a section changes the text of that entry and nothing else. -/
theorem entries_addLine (increasing : scrollback.entries.Increasing) (id : EntryId) (line : String) :
    (scrollback.addLine id line).entries.toList =
      scrollback.entries.toList.map fun entry =>
        if entry.id = id then { entry with text := entry.text ++ "\n" ++ line } else entry :=
  entries_update increasing _

/-- Linking tells the answer its request, and tells the request, if it is one, its answer. -/
theorem entries_link (increasing : scrollback.entries.Increasing) (request answer : EntryId) :
    (scrollback.link request answer).entries.toList =
      scrollback.entries.toList.map fun entry =>
        if entry.id = answer then { entry with counterpart := some request }
        else if entry.id = request ∧ entry.kind = .requestStart then
          { entry with counterpart := some answer }
        else entry := by
  have keepsId : ∀ entry, (Timeline.changeAt request (noteAnswer answer) entry).id = entry.id := by
    intro entry
    unfold Timeline.changeAt noteAnswer
    split <;> (try split) <;> rfl
  have told : (scrollback.update request (noteAnswer answer)).entries.Increasing :=
    increasing.of_toList_eq_map (entries_update increasing _) keepsId
  rw [link, entries_update told, entries_update increasing, List.map_map]
  apply List.map_congr_left
  intro entry _
  rw [Function.comp_apply, Timeline.changeAt, keepsId]
  -- the answer's counterpart is written last, so what it was told as a request does not matter
  by_cases isAnswer : entry.id = answer
  · rw [if_pos isAnswer, if_pos isAnswer]
    unfold Timeline.changeAt noteAnswer
    split <;> (try split) <;> rfl
  · rw [if_neg isAnswer, if_neg isAnswer]
    unfold Timeline.changeAt noteAnswer
    by_cases isRequest : entry.id = request <;> simp [isRequest]

/-! ## The scrollback as a window -/

/-- Since a scrollback was last empty, the ids that it has dropped and those that it holds are the
ones that were added, in order.  Each entry that is added is held afterwards, the capacity is met,
and no more than the excess was dropped, from the old end; the count of dropped entries counts all
of them.  An id finds the only entry that has it.  Folding a line changes the text of its section,
and linking changes counterparts: the answer's, and the request's if it is a request or is itself
named as the answer. -/
theorem window_run
    (capacity : Nat)
    {actions : List Action}
    (ordered : (addedIds actions).Pairwise (· < ·))
    (keepIds : ∀ action ∈ actions, action.KeepsIds) :
    let start := ofCapacity capacity
    let last := start.run actions
    (∀ before after, actions = before ++ after → Emptied before →
        (∀ action ∈ after, ¬action.IsClear) →
        (start.run before).droppedIds after ++ last.entries.ids = addedIds after) ∧
      (∀ before entry after, actions = before ++ .append entry :: after →
        let held := start.run before
        let next := (held.append entry).1
        next.entries.size ≤ next.capacity ∧ next.find? entry.id = some entry ∧
          (held.append entry).2 =
            held.entries.ids.take (held.entries.size + 1 - held.capacity)) ∧
      last.evicted = (start.droppedIds actions).length ∧
      (∀ id entry, last.find? id = some entry ↔ entry ∈ last.entries.toList ∧ entry.id = id) ∧
      (∀ id, last.find? id = none ↔ ∀ entry ∈ last.entries.toList, entry.id ≠ id) ∧
      (∀ id line, (last.addLine id line).entries.toList =
        last.entries.toList.map fun entry =>
          if entry.id = id then { entry with text := entry.text ++ "\n" ++ line } else entry) ∧
      (∀ request answer, (last.link request answer).entries.toList =
        last.entries.toList.map fun entry =>
          if entry.id = answer then { entry with counterpart := some request }
          else if entry.id = request ∧ entry.kind = .requestStart then
            { entry with counterpart := some answer }
          else entry) := by
  intro start last
  have increasing : last.entries.Increasing := increasing_run ordered keepIds capacity
  refine ⟨?_, ?_, ?_, fun _ _ => Timeline.find?_eq_some_iff increasing, fun id => ?_,
    entries_addLine increasing, entries_link increasing⟩
  · rintro before after rfl emptied noClear
    have conserved := (start.run before).ids_run
      (fun action member => keepIds action (List.mem_append_right before member)) noClear
    rw [ids_run_of_emptied emptied, List.nil_append, ← run_append] at conserved
    exact conserved
  · rintro before entry after rfl
    have room : 0 < (start.run before).capacity := room_run (capacity_ofCapacity_pos capacity) before
    have orderedHere : (addedIds (before ++ [.append entry])).Pairwise (· < ·) := by
      rw [List.append_cons, addedIds_append] at ordered
      exact (List.pairwise_append.mp ordered).1
    have keepIdsHere : ∀ action ∈ before ++ [.append entry], action.KeepsIds := by
      intro action member
      rw [List.append_cons] at keepIds
      exact keepIds action (List.mem_append_left after member)
    have increasingHere := increasing_run orderedHere keepIdsHere capacity
    rw [run_append] at increasingHere
    exact ⟨size_append_le _ entry,
      (Timeline.find?_eq_some_iff increasingHere).mpr ⟨mem_append room entry, rfl⟩,
      dropped_append_of_room room entry⟩
  · exact (evicted_run start actions).trans (Nat.zero_add _)
  · rw [← Option.not_isSome_iff_eq_none]
    exact (Timeline.find?_isSome_iff increasing).not.trans (by push Not; rfl)

/-- A scrollback that shrinks, drops two entries at once, is cleared and grows again. -/
theorem window_run_shrinks_and_grows :
    let before : List Action :=
      [.append { id := 1, kind := .requestStart, text := "a" },
        .append { id := 3, kind := .plain, text := "b" }, .setCapacity 0,
        .append { id := 4, kind := .plain, text := "c" }, .clear]
    let after : List Action :=
      [.append { id := 6, kind := .sectionHead, text := "d" }, .addLine 6 "e", .setCapacity 2,
        .append { id := 9, kind := .requestStart, text := "f" },
        .append { id := 10, kind := .requestEnd, text := "g" }, .link 9 10,
        .edit 10 fun entry => { entry with visible := false }]
    let start := ofCapacity 2
    let last := start.run (before ++ after)
    (addedIds (before ++ after)).Pairwise (· < ·) ∧
      (∀ action ∈ before ++ after, action.KeepsIds) ∧ Emptied before ∧
      (start.run before).droppedIds after ++ last.entries.ids = [6, 9, 10] ∧
      last.evicted = 3 ∧
      last.find? 9 = some { id := 9, kind := .requestStart, text := "f", counterpart := some 10 } := by
  intro before after start last
  have ordered : (addedIds (before ++ after)).Pairwise (· < ·) := by decide
  have keepIds : ∀ action ∈ before ++ after, action.KeepsIds := by
    simp [before, after, Action.KeepsIds]
  have emptied : Emptied before := .inr ⟨before.dropLast, rfl⟩
  have noClear : ∀ action ∈ after, ¬action.IsClear := by simp [after, Action.IsClear]
  obtain ⟨conserved, -, counted, found, -, -, -⟩ := window_run 2 ordered keepIds
  refine ⟨ordered, keepIds, emptied, conserved before after rfl emptied noClear, ?_, ?_⟩
  · rw [counted]
    decide +kernel
  · rw [found]
    decide +kernel

/-- An entry that is linked to itself is told of itself, whatever its kind. -/
theorem link_itself_tells_plain_entry :
    let plain : Entry := { id := 7, kind := .plain, text := "a" }
    let held := (ofCapacity 3).run [.append plain]
    ¬∀ request answer, ∀ entry ∈ held.entries.toList, entry.id = request →
        entry.kind ≠ .requestStart →
        ∀ changed ∈ (held.link request answer).entries.toList, changed.id = request →
          changed.counterpart = entry.counterpart := by
  intro plain held untold
  have told := untold 7 7 plain (by decide) rfl (by decide) { plain with counterpart := some 7 }
    (by decide +kernel) rfl
  exact absurd told (by decide)

end Scrollback
end TailView
