import Mathlib.Data.List.Forall2
import TailView.Proofs.Amount
import TailView.Proofs.Display.EntryLines

/-!
# Colours change no content

A style is written as a complete escape sequence before a text and another one behind it.  What is
printed is put together from such texts and from plain ones.  As long as the texts themselves hold
no escape character, a sequence is complete before the next text begins, so stripping takes away the
sequences of the styles and nothing else: what is printed with colours is, stripped, what is printed
without them.
-/

namespace TailView
namespace Text

open Escape

/-! ## Texts that are stripped by themselves -/

namespace Escape

variable {cs kept : List Char} {c : Char}

/-- Of a text a given part is kept, and whatever stands behind it is stripped for itself. -/
def KeptAs (cs kept : List Char) : Prop :=
  ∀ rest, stripChars (cs ++ rest) = kept ++ stripChars rest

namespace KeptAs

theorem stripChars_eq (keptAs : KeptAs cs kept) : stripChars cs = kept := by
  have alone := keptAs []
  rwa [List.append_nil, show stripChars [] = [] from rfl, List.append_nil] at alone

theorem nil : KeptAs [] [] := fun _ => rfl

theorem append
    {others keptOthers : List Char}
    (first : KeptAs cs kept)
    (second : KeptAs others keptOthers) :
    KeptAs (cs ++ others) (kept ++ keptOthers) := by
  intro rest
  rw [List.append_assoc, first, second, List.append_assoc]

/-- A complete sequence is left out. -/
theorem of_isSequence (isSequence : IsSequence cs) : KeptAs cs [] :=
  stripChars_append isSequence

/-- Characters that start no sequence are kept. -/
theorem of_not_mem (absent : esc ∉ cs) : KeptAs cs cs := by
  induction cs with
  | nil => exact nil
  | cons c rest inductionHypothesis =>
      obtain ⟨noEsc, absentRest⟩ := List.ne_and_not_mem_of_not_mem_cons absent
      intro following
      have nothing : length? (c :: (rest ++ following)) = none := by
        rw [Option.eq_none_iff_forall_ne_some]
        intro length found
        exact noEsc (head_of_length? found).symm
      rw [List.cons_append, stripChars_cons nothing, inductionHypothesis absentRest,
        List.cons_append]

end KeptAs
end Escape

/-! ## Styles -/

namespace Style

variable {style : Style} {text : String}

/-- A style is written with digits. -/
theorem isDigit_of_mem_codes {code : String} (member : code ∈ style.codes) :
    ∀ c ∈ code.toList, c.isDigit = true := by
  have known : code ∈ ["1", "2", "3", "31", "32", "33", "35", "36"] := by
    obtain ⟨bold, dimmed, italic, color⟩ := style
    simp only [codes, List.mem_append, Option.mem_toList, Option.map_eq_some_iff] at member
    rcases member with ((isBold | isDimmed) | isItalic) | ⟨named, -, rfl⟩
    · cases bold <;> simp_all
    · cases dimmed <;> simp_all
    · cases italic <;> simp_all
    · cases named <;> decide
  have digits :
      (["1", "2", "3", "31", "32", "33", "35", "36"].all fun code => code.toList.all Char.isDigit) =
        true := by
    decide
  exact List.all_eq_true.mp (List.all_eq_true.mp digits code known)

/-- Between the codes of a style stand semicolons. -/
theorem isParameter_of_mem_codes (style : Style) :
    ∀ c ∈ (";".intercalate style.codes).toList, isParameter c = true := by
  have digits : ∀ code ∈ style.codes, ∀ c ∈ code.toList, c.isDigit = true :=
    fun code member => isDigit_of_mem_codes member
  generalize style.codes = codes at digits ⊢
  induction codes with
  | nil => exact nofun
  | cons first rest inductionHypothesis =>
      rw [List.forall_mem_cons] at digits
      have inFirst : ∀ c ∈ first.toList, isParameter c = true := by
        intro c member
        simp [isParameter, digits.1 c member]
      cases rest with
      | nil =>
          rw [String.intercalate_singleton]
          exact inFirst
      | cons second others =>
          rw [String.intercalate_cons_cons, String.toList_append, String.toList_append,
            List.forall_mem_append, List.forall_mem_append]
          exact ⟨⟨inFirst, List.all_eq_true.mp (by decide)⟩, inductionHypothesis digits.2⟩

theorem isSequence_opening (style : Style) : IsSequence style.opening :=
  .control _ 'm' style.isParameter_of_mem_codes rfl

theorem isSequence_reset : IsSequence reset :=
  .control ['0'] 'm' (List.forall_mem_singleton.mpr rfl) rfl

/-- A text without escape characters holds no reset. -/
theorem afterResets_of_not_mem
    {cs : List Char}
    (absent : esc ∉ cs)
    (sequence : List Char) :
    afterResets sequence cs = cs := by
  induction cs with
  | nil => rfl
  | cons c rest inductionHypothesis =>
      obtain ⟨noEsc, absentRest⟩ := List.ne_and_not_mem_of_not_mem_cons absent
      rw [afterResets, inductionHypothesis absentRest]
      rintro others rfl _
      exact noEsc rfl

theorem paint_false (style : Style) (text : String) : style.paint false text = text := rfl

end Style
end Text

namespace Display

open Text Escape

variable {session : Session} {entry : Entry} {correlation : Bool} {text : String}

/-! ## What is printed with colours and without -/

/-- Two texts of which the first one has the sequences of styles in it, and the second one is what
is kept of it, whatever stands behind. -/
def SameContent (colored uncolored : String) : Prop := KeptAs colored.toList uncolored.toList

namespace SameContent

variable {colored uncolored : String}

theorem strip_eq (same : SameContent colored uncolored) : strip colored = uncolored := by
  rw [strip, KeptAs.stripChars_eq same, String.ofList_toList]

theorem of_not_mem (absent : esc ∉ text.toList) : SameContent text text := KeptAs.of_not_mem absent

theorem of_printable (printable : Printable text) : SameContent text text :=
  of_not_mem (printable.not_mem (by decide))

theorem append
    {coloredOther uncoloredOther : String}
    (first : SameContent colored uncolored)
    (second : SameContent coloredOther uncoloredOther) :
    SameContent (colored ++ coloredOther) (uncolored ++ uncoloredOther) := by
  unfold SameContent
  rw [String.toList_append, String.toList_append]
  exact KeptAs.append first second

/-- A text in a style has the content of the text. -/
theorem paint (absent : esc ∉ text.toList) (style : Style) :
    SameContent (style.paint true text) (style.paint false text) := by
  rw [Style.paint_false]
  unfold Style.paint
  split
  · exact of_not_mem absent
  · unfold SameContent
    rw [String.toList_ofList, Style.afterResets_of_not_mem absent]
    have opened := (KeptAs.of_isSequence style.isSequence_opening).append (KeptAs.of_not_mem absent)
    have closed := opened.append (KeptAs.of_isSequence Style.isSequence_reset)
    rwa [List.nil_append, List.append_nil] at closed

/-- Parts with the same content, joined by a plain separator. -/
theorem intercalate
    {separator : String}
    {coloredParts uncoloredParts : List String}
    (absent : esc ∉ separator.toList)
    (same : List.Forall₂ SameContent coloredParts uncoloredParts) :
    SameContent (separator.intercalate coloredParts) (separator.intercalate uncoloredParts) := by
  induction same with
  | nil => exact KeptAs.nil
  | cons first rest inductionHypothesis =>
      cases rest with
      | nil =>
          rw [String.intercalate_singleton, String.intercalate_singleton]
          exact first
      | cons second others =>
          rw [String.intercalate_cons_cons, String.intercalate_cons_cons]
          exact (first.append (of_not_mem absent)).append inductionHypothesis

end SameContent

/-! ## Entries -/

/-- What is in a line of a text is in the text. -/
theorem mem_of_mem_lines
    {line : String}
    {c : Char}
    (isLine : line ∈ Text.lines text)
    (member : c ∈ line.toList) :
    c ∈ text.toList := by
  have joined : "\n".intercalate (Text.lines text) = text := by
    rw [← String.toList_inj, String.toList_intercalate, Text.lines, List.map_map]
    simpa [Function.comp_def] using Text.intercalate_pieces '\n' text.toList
  rw [← joined]
  generalize Text.lines text = lines at isLine
  induction lines with
  | nil => cases isLine
  | cons first rest inductionHypothesis =>
      cases rest with
      | nil =>
          rw [String.intercalate_singleton, ← List.mem_singleton.mp isLine]
          exact member
      | cons second others =>
          rw [String.intercalate_cons_cons, String.toList_append, List.mem_append]
          rcases List.mem_cons.mp isLine with rfl | later
          · rw [String.toList_append, List.mem_append]
            exact .inl (.inl member)
          · exact .inr (inductionHypothesis later)

/-- The hint behind the first line has the same content with colours and without. -/
theorem sameContent_hintText (session : Session) (entry : Entry) (correlation : Bool) :
    SameContent (hintText true (if correlation then correlationHint session entry else none))
      (plainHint session entry correlation) := by
  unfold plainHint
  cases given : if correlation then correlationHint session entry else none with
  | none => exact .of_not_mem (by decide)
  | some hint =>
      have fromSession : correlationHint session entry = some hint := by
        cases correlation with
        | false => cases given
        | true => exact given
      have printable := printable_correlationHint fromSession
      exact .append (.of_not_mem (by decide)) (.paint (printable.not_mem (by decide)) _)

theorem sameContent_entryText
    (absent : esc ∉ entry.text.toList)
    (session : Session)
    (correlation : Bool) :
    SameContent (entryText true correlation session entry)
      (entryText false correlation session entry) := by
  have lineAbsent : ∀ line ∈ entry.lines, esc ∉ (strip line).toList := by
    intro line member
    rw [strip, String.toList_ofList, stripChars_of_not_mem]
    all_goals exact fun isEsc => absent (mem_of_mem_lines member isEsc)
  unfold entryText
  cases held : entry.lines with
  | nil => exact absurd held entry.lines_ne_nil
  | cons first rest =>
      rw [held, List.forall_mem_cons] at lineAbsent
      apply SameContent.intercalate (by decide)
      refine .cons (.append (.paint lineAbsent.1 _) ?_) ?_
      · exact sameContent_hintText session entry correlation
      · rw [List.forall₂_map_left_iff, List.forall₂_map_right_iff, List.forall₂_same]
        exact fun line member => .paint (lineAbsent.2 line member) _

/-! ## The status line -/

/-- The text of an amount has no control characters. -/
theorem printable_amountText (amount : Amount) : Printable amount.text := by
  obtain ⟨value, unit⟩ := amount
  intro c member
  rw [Amount.toList_text, List.mem_append] at member
  rcases member with inValue | inUnit
  · cases value with
    | nan =>
        have printable : Printable Number.Binary64.nan.text := by decide
        exact printable c inValue
    | infinity negative =>
        have printable : Printable (Number.Binary64.infinity negative).text := by
          cases negative <;> decide
        exact printable c inValue
    | finite negative magnitude =>
        obtain ⟨_, _, numeral, _⟩ := Number.Binary64.exists_isNumeral_text negative magnitude
        rcases numeral.mem_cases inValue with digit | rfl | rfl | rfl
        · have range := Number.toNat_of_isDigit digit
          omega
        all_goals decide
  · have letter := SizeUnit.isAlpha_of_mem (SizeUnit.map_toLower_name unit) inUnit
    have range := Number.toNat_of_isAlpha letter
    omega

theorem sameContent_stateText (session : Session) :
    SameContent (stateText true session) (stateText false session) := by
  have printable : Printable session.connection.state.name := by
    cases session.connection.state <;> decide
  have painted := SameContent.paint (printable.not_mem (by decide))
    (stateStyle session.connection.state)
  exact (SameContent.append (.of_not_mem (by decide)) painted).append (.of_not_mem (by decide))

theorem sameContent_selectionText
    {selection : Selection}
    (absent : esc ∉ selection.file.toList)
    (session : Session) :
    SameContent (selectionText true session selection) (selectionText false session selection) := by
  have mode : Printable (Command.Mode.ofFollow session.follow).name := by
    cases session.follow <;> decide
  have before := (SameContent.of_printable mode).append (.of_not_mem (by decide : esc ∉ " ".toList))
  have file := before.append (.paint absent { bold := true })
  have opened := file.append (.of_not_mem (by decide : esc ∉ " (".toList))
  have amount := opened.append (.of_printable (printable_amountText selection.amount))
  exact amount.append (.of_not_mem (by decide))

theorem sameContent_errorsText (session : Session) :
    SameContent (errorsText true session) (errorsText false session) := by
  have printable : Printable ("errors: " ++ toString session.errorCount) :=
    printable_append_iff.mpr ⟨by decide, printable_toString _⟩
  unfold errorsText
  split
  · exact .of_printable printable
  · exact .paint (printable.not_mem (by decide)) _

/-- The part about the filter is there with colours if it is there without, with the same content. -/
theorem sameContent_filterText
    (noPattern : ∀ pattern ∈ session.filter.pattern, esc ∉ pattern.toList)
    (noMessage : ∀ rejection ∈ session.filter.rejection, esc ∉ rejection.message.toList) :
    List.Forall₂ SameContent (filterText true session).toList (filterText false session).toList := by
  unfold filterText
  cases rejected : session.filter.rejection with
  | some rejection =>
      have absent : esc ∉ ("filter disabled: " ++ rejection.message).toList := by
        rw [String.toList_append, List.mem_append, not_or]
        exact ⟨by decide, noMessage rejection rejected⟩
      exact .cons (.paint absent _) .nil
  | none =>
      cases accepted : session.filter.pattern with
      | none => exact .nil
      | some pattern =>
          have absent := noPattern pattern accepted
          exact .cons (.append (.of_not_mem (by decide)) (.of_not_mem absent)) .nil

theorem sameContent_statusLine
    (noFile : ∀ selection ∈ session.selection, esc ∉ selection.file.toList)
    (noPattern : ∀ pattern ∈ session.filter.pattern, esc ∉ pattern.toList)
    (noMessage : ∀ rejection ∈ session.filter.rejection, esc ∉ rejection.message.toList) :
    SameContent (statusLine true session) (statusLine false session) := by
  have selected : List.Forall₂ SameContent
      (session.selection.map (selectionText true session)).toList
      (session.selection.map (selectionText false session)).toList := by
    cases chosen : session.selection with
    | none => exact .nil
    | some selection => exact .cons (sameContent_selectionText (noFile selection chosen) session) .nil
  have focused : List.Forall₂ SameContent
      (if session.focus.active then [(Style.colored .magenta).paint true "error focus"] else [])
      (if session.focus.active then [(Style.colored .magenta).paint false "error focus"] else []) := by
    split
    · exact .cons (.paint (by decide) _) .nil
    · exact .nil
  have start := List.rel_append (List.Forall₂.cons (sameContent_stateText session) .nil) selected
  have counted := List.rel_append start (List.Forall₂.cons (sameContent_errorsText session) .nil)
  have shown := List.rel_append counted focused
  exact .intercalate (by decide)
    (List.rel_append shown (sameContent_filterText noPattern noMessage))

/-- An entry without escape characters is printed with colours as it is printed without them, up to
escape sequences.  So is the status line if the name of the file, the pattern and the message about
a refused pattern hold no escape character. -/
theorem strip_colored (session : Session) (entry : Entry) (correlation : Bool) :
    (esc ∉ entry.text.toList →
        strip (entryText true correlation session entry) =
          entryText false correlation session entry) ∧
      ((∀ selection ∈ session.selection, esc ∉ selection.file.toList) →
        (∀ pattern ∈ session.filter.pattern, esc ∉ pattern.toList) →
        (∀ rejection ∈ session.filter.rejection, esc ∉ rejection.message.toList) →
        strip (statusLine true session) = statusLine false session) := by
  refine ⟨fun absent => ?_, fun noFile noPattern noMessage => ?_⟩
  · exact (sameContent_entryText absent session correlation).strip_eq
  · exact (sameContent_statusLine noFile noPattern noMessage).strip_eq

/-- A section and an answered request whose texts look like parts of sequences, and a pattern that
is refused. -/
theorem strip_colored_partsOfSequences :
    let session := (Session.ofOptions {}).run
      [.connected, .openFile "[0m.log" .standard,
        .receive (.binary "t [7] -> GET /a[31m HTTP/1.1\nt [7] <- 500 0m\n".toUTF8.toList),
        .receive (.binary "1;31m *ERROR* ]0;\n\t[0m\x07\n".toUTF8.toList), .setFilter "("]
    (∀ entry ∈ session.mainView, esc ∉ entry.text.toList ∧
        strip (entryText true true session entry) = entryText false true session entry ∧
        entryText true true session entry ≠ entryText false true session entry) ∧
      (∀ selection ∈ session.selection, esc ∉ selection.file.toList) ∧
      (∀ pattern ∈ session.filter.pattern, esc ∉ pattern.toList) ∧
      (∀ rejection ∈ session.filter.rejection, esc ∉ rejection.message.toList) ∧
      strip (statusLine true session) = statusLine false session := by
  intro session
  have absent : ∀ entry ∈ session.mainView, esc ∉ entry.text.toList := by decide +kernel
  have noFile : ∀ selection ∈ session.selection, esc ∉ selection.file.toList := by decide +kernel
  have noPattern : ∀ pattern ∈ session.filter.pattern, esc ∉ pattern.toList := by decide +kernel
  have noMessage : ∀ rejection ∈ session.filter.rejection, esc ∉ rejection.message.toList := by
    decide +kernel
  have colored : ∀ entry ∈ session.mainView,
      entryText true true session entry ≠ entryText false true session entry := by decide +kernel
  refine ⟨fun entry member => ⟨absent entry member, ?_, colored entry member⟩, noFile, noPattern,
    noMessage, ?_⟩
  · exact (strip_colored session entry true).1 (absent entry member)
  · exact (strip_colored session { id := 0, kind := .plain, text := "" } true).2 noFile noPattern
      noMessage

end Display
end TailView
