import Mathlib.Data.List.DropRight
import TailView.Display.Terminal

/-!
# What is printed for an entry

A chunk is what the terminal prints at once.  It is the line that divides two views, the status
line, or a piece of an entry.  The chunks of an entry since the view was last printed anew are its
lines on the terminal.
-/

namespace TailView
namespace Display

open Text

/-- What a chunk is printed for. -/
inductive Source
  /-- The view is printed anew. -/
  | divider
  /-- An entry is printed or has grown. -/
  | entry (id : EntryId)
  /-- The status line is printed. -/
  | status
deriving DecidableEq

/-- A text that is printed at once. -/
structure Chunk where
  /-- What it is printed for. -/
  source : Source
  /-- What is printed. -/
  text : String
deriving DecidableEq

/-- Texts that are printed for an entry. -/
def Chunk.forEntry (id : EntryId) (texts : List String) : List Chunk :=
  texts.map fun text => ⟨.entry id, text⟩

@[simp] theorem map_text_forEntry (id : EntryId) (texts : List String) :
    (Chunk.forEntry id texts).map (·.text) = texts := by
  rw [Chunk.forEntry, List.map_map]
  exact List.map_id texts

namespace Terminal

/-- The chunks of entries that are printed one after the other. -/
def entriesChunks (terminal : Terminal) (session : Session) : List Entry → List Chunk
  | [] => []
  | entry :: rest =>
      Chunk.forEntry entry.id (terminal.printEntry session entry).2 ++
        (terminal.printEntry session entry).1.entriesChunks session rest

/-- The chunks of one change. -/
def updateChunks (terminal : Terminal) (session : Session) : Update → List Chunk
  | .redraw =>
      (if terminal.look.format = .text then
        [⟨.divider, divider terminal.look.colors⟩] else []) ++
        { terminal with lastSection := none }.entriesChunks session session.activeView
  | .appended id => Chunk.forEntry id (terminal.printUpdate session (.appended id)).2
  | .patched id => Chunk.forEntry id (terminal.printUpdate session (.patched id)).2

/-- The chunks of changes that are printed one after the other. -/
def updatesChunks (terminal : Terminal) (session : Session) : List Update → List Chunk
  | [] => []
  | update :: rest =>
      terminal.updateChunks session update ++
        (terminal.printUpdate session update).1.updatesChunks session rest

/-- The chunks of changes and of the status line after them. -/
def chunks (terminal : Terminal) (session : Session) (updates : List Update) : List Chunk :=
  terminal.updatesChunks session updates ++
    ((terminal.printUpdates session updates).1.printStatus session updates).2.map
      fun text => ⟨.status, text⟩

@[simp] theorem look_printEntry (terminal : Terminal) (session : Session) (entry : Entry) :
    (terminal.printEntry session entry).1.look = terminal.look := by
  unfold printEntry
  simp only
  split <;> rfl

@[simp] theorem look_printGrowth (terminal : Terminal) (session : Session) (entry : Entry) :
    (terminal.printGrowth session entry).1.look = terminal.look := by
  unfold printGrowth
  simp only
  split <;> rfl

/-- Printing does not change how the view is printed. -/
@[simp] theorem look_printEntries
    (terminal : Terminal)
    (session : Session)
    (entries : List Entry) :
    (terminal.printEntries session entries).1.look = terminal.look := by
  induction entries generalizing terminal with
  | nil => rfl
  | cons entry rest inductionHypothesis =>
      rw [printEntries]
      simp only
      rw [inductionHypothesis, look_printEntry]

theorem map_text_entriesChunks (terminal : Terminal) (session : Session) (entries : List Entry) :
    (terminal.entriesChunks session entries).map (·.text) =
      (terminal.printEntries session entries).2 := by
  induction entries generalizing terminal with
  | nil => rfl
  | cons entry rest inductionHypothesis =>
      rw [entriesChunks, List.map_append, map_text_forEntry, inductionHypothesis]
      rfl

theorem map_text_updateChunks (terminal : Terminal) (session : Session) (update : Update) :
    (terminal.updateChunks session update).map (·.text) =
      (terminal.printUpdate session update).2 := by
  cases update with
  | redraw =>
      rw [updateChunks, List.map_append, map_text_entriesChunks, printUpdate]
      simp only [look_printEntries]
      congr 1
      split <;> rfl
  | appended id => exact map_text_forEntry id _
  | patched id => exact map_text_forEntry id _

theorem map_text_updatesChunks (terminal : Terminal) (session : Session) (updates : List Update) :
    (terminal.updatesChunks session updates).map (·.text) =
      (terminal.printUpdates session updates).2 := by
  induction updates generalizing terminal with
  | nil => rfl
  | cons update rest inductionHypothesis =>
      rw [updatesChunks, List.map_append, map_text_updateChunks, inductionHypothesis]
      rfl

/-- The chunks are what is printed. -/
theorem map_text_chunks (terminal : Terminal) (session : Session) (updates : List Update) :
    (terminal.chunks session updates).map (·.text) = (terminal.render session updates).2 := by
  rw [chunks, List.map_append, map_text_updatesChunks, List.map_map]
  unfold render
  simp [Function.comp_def]

end Terminal

/-! ## The chunks since the view was last printed anew -/

section SinceRedraw

variable {printed added : List Chunk} {id other : EntryId}

/-- What was printed since the view was last printed anew. -/
def sinceRedraw (printed : List Chunk) : List Chunk :=
  printed.rtakeWhile fun chunk => chunk.source ≠ .divider

/-- What was printed for an entry since the view was last printed anew. -/
def chunksFor (printed : List Chunk) (id : EntryId) : List String :=
  ((sinceRedraw printed).filter fun chunk => chunk.source = .entry id).map (·.text)

theorem sinceRedraw_append (printed : List Chunk)
    (undivided : ∀ chunk ∈ added, chunk.source ≠ .divider) :
    sinceRedraw (printed ++ added) = sinceRedraw printed ++ added := by
  induction added using List.reverseRecOn with
  | nil => simp
  | append_singleton before last inductionHypothesis =>
      rw [List.forall_mem_append, List.forall_mem_singleton] at undivided
      rw [← List.append_assoc, sinceRedraw, List.rtakeWhile_concat_pos, ← sinceRedraw,
        inductionHypothesis undivided.1, List.append_assoc]
      simpa using undivided.2

/-- A divider starts anew. -/
theorem sinceRedraw_append_divider (printed : List Chunk) (text : String)
    (undivided : ∀ chunk ∈ added, chunk.source ≠ .divider) :
    sinceRedraw (printed ++ ⟨.divider, text⟩ :: added) = added := by
  have divided : sinceRedraw (printed ++ [⟨.divider, text⟩]) = [] :=
    List.rtakeWhile_concat_neg _ _ _ (by simp)
  rw [List.append_cons, sinceRedraw_append _ undivided, divided, List.nil_append]

theorem source_ne_divider_of_mem_forEntry {texts : List String} :
    ∀ chunk ∈ Chunk.forEntry id texts, chunk.source ≠ .divider := by
  simp [Chunk.forEntry]

/-- What is printed for an entry is added to its chunks. -/
theorem chunksFor_append_forEntry (printed : List Chunk) (id : EntryId) (texts : List String) :
    chunksFor (printed ++ Chunk.forEntry id texts) id = chunksFor printed id ++ texts := by
  have all : (Chunk.forEntry id texts).filter (fun chunk => chunk.source = .entry id) =
      Chunk.forEntry id texts := by
    rw [List.filter_eq_self]
    simp [Chunk.forEntry]
  rw [chunksFor, sinceRedraw_append _ source_ne_divider_of_mem_forEntry, List.filter_append, all,
    List.map_append, map_text_forEntry]
  rfl

/-- What is printed for an entry is not added to the chunks of another one. -/
theorem chunksFor_append_of_ne (printed : List Chunk) (different : other ≠ id)
    (texts : List String) :
    chunksFor (printed ++ Chunk.forEntry other texts) id = chunksFor printed id := by
  have none : (Chunk.forEntry other texts).filter (fun chunk => chunk.source = .entry id) = [] := by
    rw [List.filter_eq_nil_iff]
    simp [Chunk.forEntry, different]
  rw [chunksFor, sinceRedraw_append _ source_ne_divider_of_mem_forEntry, List.filter_append, none,
    List.append_nil]
  rfl

/-- The status line is printed for no entry. -/
theorem chunksFor_append_status (printed : List Chunk) (texts : List String) (id : EntryId) :
    chunksFor (printed ++ texts.map fun text => ⟨.status, text⟩) id = chunksFor printed id := by
  have undivided : ∀ chunk ∈ texts.map fun text => (⟨.status, text⟩ : Chunk),
      chunk.source ≠ .divider := by
    simp
  have none : (texts.map fun text => (⟨.status, text⟩ : Chunk)).filter
      (fun chunk => chunk.source = .entry id) = [] := by
    rw [List.filter_eq_nil_iff]
    simp
  rw [chunksFor, sinceRedraw_append _ undivided, List.filter_append, none, List.append_nil]
  rfl

/-- Nothing was printed for an entry since a divider. -/
theorem chunksFor_append_divider (printed : List Chunk) (text : String) (id : EntryId) :
    chunksFor (printed ++ [⟨.divider, text⟩]) id = [] := by
  rw [chunksFor, sinceRedraw_append_divider _ _ (List.forall_mem_nil _)]
  rfl

end SinceRedraw
end Display
end TailView
