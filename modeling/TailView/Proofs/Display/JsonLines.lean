import TailView.CommandLine.Run
import TailView.Proofs.Display.EntryLines
import TailView.Proofs.Json
import TailView.Storage.Memory

/-!
# Entries are read back from their lines

A snapshot as JSON is one line for each visible entry of the view on show.  An entry is written
without control characters, so its line ends where the next one starts; and all that an entry holds
can be read back from its line.
-/

namespace TailView

open Text.Json (Scalar)

namespace Text
namespace Json

/-- The text of a value, if it is one. -/
def Scalar.text? : Scalar → Option String
  | .text value => some value
  | _ => none

/-- The number of a value, if it is one. -/
def Scalar.number? : Scalar → Option Nat
  | .number value => some value
  | _ => none

/-- The truth value of a value, if it is one. -/
def Scalar.truth? : Scalar → Option Bool
  | .truth value => some value
  | _ => none

/-- The value of a field that has to be there. -/
def required? {α : Type}
    (fields : List (String × Scalar))
    (name : String)
    (read : Scalar → Option α) : Option α :=
  (fields.lookup name).bind read

/-- The value of a field that may be left out or be null. -/
def optional? {α : Type}
    (fields : List (String × Scalar))
    (name : String)
    (read : Scalar → Option α) : Option (Option α) :=
  match fields.lookup name with
  | none => some none
  | some .null => some none
  | some value => (read value).map some

end Json
end Text

/-- The severity with a given name. -/
def Severity.ofName? (name : String) : Option Severity :=
  all.find? fun severity => severity.name = name

@[simp]
theorem Severity.ofName?_name (severity : Severity) : ofName? severity.name = some severity := by
  cases severity <;> decide

namespace Entry

/-- The kind with a given name. -/
def Kind.ofName? (name : String) : Option Kind :=
  [Kind.plain, .sectionHead, .continuation, .requestStart, .requestEnd, .info].find? fun kind =>
    kind.name = name

@[simp]
theorem Kind.ofName?_name (kind : Kind) : ofName? kind.name = some kind := by
  cases kind <;> decide

/-- The field of an optional value. -/
def optionalScalar {α : Type} (name : String) (value : α → Scalar) :
    Option α → List (String × Scalar)
  | none => []
  | some given => [(name, value given)]

/-- The fields of an entry. -/
def fields (entry : Entry) : List (String × Scalar) :=
  [("id", .number entry.id), ("kind", .text entry.kind.name)] ++
    optionalScalar "severity" (fun severity => .text severity.name) entry.severity ++
    [("text", .text entry.text)] ++
    optionalScalar "correlation_id" .number entry.correlationId ++
    optionalScalar "counterpart" .number entry.counterpart ++
    [("visible", .truth entry.visible)]

/-- The entry with the given fields, in any order. -/
def ofFields? (fields : List (String × Scalar)) : Option Entry := do
  let id ← Text.Json.required? fields "id" Scalar.number?
  let kind ← Text.Json.required? fields "kind" fun value => value.text?.bind Kind.ofName?
  let severity ←
    Text.Json.optional? fields "severity" fun value => value.text?.bind Severity.ofName?
  let text ← Text.Json.required? fields "text" Scalar.text?
  let correlationId ← Text.Json.optional? fields "correlation_id" Scalar.number?
  let counterpart ← Text.Json.optional? fields "counterpart" Scalar.number?
  let visible ← Text.Json.required? fields "visible" Scalar.truth?
  return { id, kind, severity, text, correlationId, counterpart, visible }

/-- The entry that a line of JSON stands for, if it stands for one. -/
def ofJson? (line : String) : Option Entry := (Text.Json.readObject? line).bind ofFields?

/-! ## Reading an entry back -/

theorem map_written_optionalScalar
    {α : Type}
    (name : String)
    (value : α → Scalar)
    (given : Option α) :
    ((optionalScalar name value given).map fun item => (item.1, item.2.written)) =
      optionalField name (fun given => (value given).written) given := by
  cases given <;> rfl

/-- An entry is written as the object of its fields. -/
theorem json_eq_object (entry : Entry) :
    entry.json = Text.Json.object (entry.fields.map fun item => (item.1, item.2.written)) := by
  simp only [fields, List.map_append, map_written_optionalScalar]
  rfl

/-- An entry is found in its fields. -/
theorem ofFields?_fields (entry : Entry) : ofFields? entry.fields = some entry := by
  obtain ⟨id, kind, severity, text, correlationId, counterpart, visible⟩ := entry
  cases severity <;> cases correlationId <;> cases counterpart <;>
    simp [fields, optionalScalar, ofFields?, Text.Json.required?, Text.Json.optional?,
      Scalar.text?, Scalar.number?, Scalar.truth?, List.lookup_cons]

/-- An entry is read back from its line. -/
theorem ofJson?_json (entry : Entry) : ofJson? entry.json = some entry := by
  rw [ofJson?, json_eq_object, Text.Json.readObject?_object]
  exact ofFields?_fields entry

/-- Different entries have different lines. -/
theorem json_injective : Function.Injective json := by
  intro first second same
  have read := ofJson?_json first
  rw [same, ofJson?_json] at read
  exact (Option.some.inj read).symm

end Entry

namespace Display

open Text

/-! ## No control characters -/

theorem printable_hexDigit : ∀ n < 16, 32 ≤ (Json.hexDigit n).toNat := by decide

theorem printable_escapeChar (c : Char) :
    ((Json.escapeChar c).all fun written => 32 ≤ written.toNat) = true := by
  unfold Json.escapeChar
  iterate 7
    split
    · rfl
  split
  · next control =>
      have high := printable_hexDigit (c.toNat / 16) (by omega)
      have low := printable_hexDigit (c.toNat % 16) (by omega)
      simp only [List.all_cons, decide_eq_true high, decide_eq_true low]
      rfl
  · next plain =>
      simpa using plain

theorem printable_quoted (text : String) : Printable (Json.quoted text) := by
  have body : Printable (String.ofList (text.toList.flatMap Json.escapeChar)) := by
    intro c member
    rw [String.toList_ofList, List.mem_flatMap] at member
    obtain ⟨source, -, written⟩ := member
    exact of_decide_eq_true (List.all_eq_true.mp (printable_escapeChar source) c written)
  simp only [Json.quoted, printable_append_iff]
  exact ⟨⟨by decide, body⟩, by decide⟩

theorem printable_written (value : Scalar) : Printable value.written := by
  cases value with
  | text value => exact printable_quoted value
  | number value => exact printable_toString value
  | truth value => cases value <;> decide
  | null => decide

theorem printable_intercalate
    {separator : String}
    {parts : List String}
    (between : Printable separator)
    (each : ∀ part ∈ parts, Printable part) :
    Printable (separator.intercalate parts) := by
  induction parts with
  | nil => exact nofun
  | cons part rest inductionHypothesis =>
      rw [List.forall_mem_cons] at each
      by_cases last : rest = []
      · rw [last, String.intercalate_singleton]
        exact each.1
      · rw [String.intercalate_cons_of_ne_nil last, printable_append_iff, printable_append_iff]
        exact ⟨⟨each.1, between⟩, inductionHypothesis each.2⟩

theorem printable_object (items : List (String × Scalar)) :
    Printable (Json.object (items.map fun item => (item.1, item.2.written))) := by
  have inside : Printable (",".intercalate
      (items.map fun item => Json.quoted item.1 ++ ":" ++ item.2.written)) := by
    refine printable_intercalate (by decide) (List.forall_mem_map.mpr fun item _ => ?_)
    simp only [printable_append_iff]
    exact ⟨⟨printable_quoted item.1, by decide⟩, printable_written item.2⟩
  simp only [Json.object, List.map_map, Function.comp_def, printable_append_iff]
  exact ⟨⟨by decide, inside⟩, by decide⟩

/-- An entry is written without control characters. -/
theorem printable_json (entry : Entry) : Printable entry.json := by
  rw [Entry.json_eq_object]
  exact printable_object entry.fields

/-! ## Printed lines -/

/-- Lines are printed below what was printed before; nothing else changes. -/
theorem run_printAll (lines : List String) (memory : Memory) :
    (CommandLine.printAll lines : StateM Memory Unit).run memory =
      ((), { memory with output := lines.reverse ++ memory.output }) := by
  induction lines generalizing memory with
  | nil => rfl
  | cons line rest inductionHypothesis =>
      have first : (CommandLine.printAll (line :: rest) : StateM Memory Unit).run memory =
          (CommandLine.printAll rest : StateM Memory Unit).run
            { memory with output := line :: memory.output } :=
        rfl
      rw [first, inductionHypothesis, List.reverse_cons, List.append_assoc]
      rfl

/-- Each of some lines, with a line break at its end. -/
def asText (lines : List String) : String := String.join (lines.map (· ++ "\n"))

/-- All that was printed when lines have been printed as well. -/
def textAfter (lines : List String) (memory : Memory) : String :=
  Memory.transcript ((CommandLine.printAll lines : StateM Memory Unit).run memory).2.output

theorem textAfter_eq (lines : List String) (memory : Memory) :
    textAfter lines memory = Memory.transcript memory.output ++ asText lines := by
  rw [textAfter, run_printAll]
  simp [Memory.transcript, asText, String.join_append]

/-- Lines without line breaks inside are the lines of the text that they make. -/
theorem linesOf_asText {lines : List String} (absent : ∀ line ∈ lines, '\n' ∉ line.toList) :
    Memory.linesOf (asText lines) = lines := by
  have cut : Text.lines (asText lines) = lines ++ [""] := by
    induction lines with
    | nil => rfl
    | cons line rest inductionHypothesis =>
        rw [List.forall_mem_cons] at absent
        have front : asText (line :: rest) = line ++ "\n" ++ asText rest := by simp [asText]
        rw [front, lines_append_newline, lines_of_not_mem absent.1, inductionHypothesis absent.2]
        rfl
  rw [Memory.linesOf, cut]
  simp

/-- As JSON a snapshot prints the visible entries of the view on show, in order, and nothing else:
one line each, without control characters, from which the whole entry can be read back. -/
theorem json_snapshot (session : Session) (correlation colors : Bool) (memory : Memory) :
    ∃ printed : String,
      textAfter (snapshot ⟨.json, correlation, colors⟩ session) memory =
        Memory.transcript memory.output ++ printed ∧
      printed = asText ((session.activeView.filter (·.visible)).map Entry.json) ∧
      Memory.linesOf printed = (session.activeView.filter (·.visible)).map Entry.json ∧
      (∀ line ∈ Memory.linesOf printed, Printable line) ∧
      (Memory.linesOf printed).map Entry.ofJson? =
        (session.activeView.filter (·.visible)).map some ∧
      Function.Injective Entry.json := by
  have lines : snapshot ⟨.json, correlation, colors⟩ session =
      (session.activeView.filter (·.visible)).map Entry.json :=
    List.append_nil _
  generalize session.activeView.filter (·.visible) = shown at *
  have eachPrintable : ∀ line ∈ shown.map Entry.json, Printable line :=
    List.forall_mem_map.mpr fun entry _ => printable_json entry
  have framed : Memory.linesOf (asText (shown.map Entry.json)) = shown.map Entry.json :=
    linesOf_asText fun line member => (eachPrintable line member).not_mem (by decide)
  refine ⟨_, ?_, rfl, framed, ?_, ?_, Entry.json_injective⟩
  · rw [lines, textAfter_eq]
  · rw [framed]
    exact eachPrintable
  · rw [framed, List.map_map]
    refine List.map_congr_left fun entry _ => ?_
    rw [Function.comp_apply, Entry.ofJson?_json]

end Display
end TailView
