import TailView.Proofs.Amount
import TailView.Session.Control

/-!
# The line that opens a file

A file is opened by `o`, its name and perhaps an amount.  Blanks around the parts do not count, and
what stands behind the last space is the amount if it reads as one; if not, it belongs to the name.
So every name without blanks at its ends can be written with any amount, and reads back as it was
written.  A filter needs no such care: behind its slash every character counts.
-/

namespace TailView
namespace Control

open Text

variable {line args rest file : List Char} {standard amount : Amount} {control : Control}

/-! ## Lines without their outer blanks -/

/-- The end of a line is blank, so taking it off first makes no difference to trimming. -/
theorem trimChars_stripEndWhere (line : List Char) :
    trimChars (stripEndWhere isLineEnd line) = trimChars line := by
  have stripped : stripEndWhere isLineEnd line = line.rdropWhile isLineEnd := rfl
  have whole : line.rdropWhile isLineEnd ++ line.rtakeWhile isLineEnd = line :=
    List.rdropWhile_append_rtakeWhile
  have blankEnd : ∀ c ∈ line.rtakeWhile isLineEnd, isBlank c = true := by
    intro c member
    have isEnd := List.mem_rtakeWhile_imp member
    rw [isLineEnd, Bool.or_eq_true, decide_eq_true_eq, decide_eq_true_eq] at isEnd
    rcases isEnd with rfl | rfl <;> decide
  obtain ⟨before, after, same, blankBefore, blankAfter⟩ :=
    exists_trimChars (stripEndWhere isLineEnd line)
  have blankBehind : ∀ c ∈ after ++ line.rtakeWhile isLineEnd, isBlank c = true :=
    List.forall_mem_append.mpr ⟨blankAfter, blankEnd⟩
  have trimmed := trimChars_append blankBefore blankBehind
    (trimmed_trimChars (stripEndWhere isLineEnd line))
  rw [← List.append_assoc, ← same, stripped, whole] at trimmed
  rw [stripped]
  exact trimmed.symm

/-- A line that begins with a letter, apart from blanks, is no filter. -/
theorem read_of_letter (isOpening : trimChars line = 'o' :: rest) :
    read line standard = readPlain ('o' :: rest) standard := by
  rw [← trimChars_stripEndWhere] at isOpening
  unfold read
  split
  · next pattern isFilter =>
      obtain ⟨before, after, whole, blankBefore, -⟩ :=
        exists_trimChars (stripEndWhere isLineEnd line)
      rw [isOpening, isFilter] at whole
      cases before with
      | nil => cases whole
      | cons first others =>
          rw [List.cons_append, List.cons_append] at whole
          have blankSlash := blankBefore first List.mem_cons_self
          rw [← (List.cons.inj whole).1] at blankSlash
          cases blankSlash
  · rw [isOpening]

theorem readPlain_eq_openFile_iff {file : String} :
    readPlain line standard = .ok (some (.openFile file amount)) ↔
      ∃ args, line = 'o' :: ' ' :: args ∧
        readOpen (trimChars args) standard = .ok (.openFile file amount) := by
  have opens : ∀ args, (readOpen args standard).map some = .ok (some (.openFile file amount)) ↔
      readOpen args standard = .ok (.openFile file amount) := by
    intro args
    cases readOpen args standard <;> simp [Except.map]
  constructor
  · intro isControl
    unfold readPlain at isControl
    split at isControl
    case h_7 =>
      split at isControl
      · next args _ _ _ _ _ _ => exact ⟨args, rfl, (opens _).mp isControl⟩
      · cases isControl
    all_goals cases isControl
  · rintro ⟨args, rfl, isControl⟩
    have notShort : ∀ short : String, short.toList.length ≤ 1 →
        String.ofList ('o' :: ' ' :: args) ≠ short := by
      rintro _ isShort rfl
      rw [String.toList_ofList] at isShort
      simp at isShort
    unfold readPlain
    split
    case h_7 => exact (opens _).mpr isControl
    all_goals next same => exact absurd same (notShort _ (by decide))

/-- Behind a slash every character counts. -/
theorem read_filter_eq (verbatim : ∀ c ∈ rest.getLast?, c ≠ '\r' ∧ c ≠ '\n') :
    read ('/' :: rest) standard = .ok (some (.filter (String.ofList rest))) := by
  have stays : stripEndWhere isLineEnd ('/' :: rest) = '/' :: rest := by
    refine List.rdropWhile_eq_self_iff.mpr ?_
    intro _ isEnd
    cases rest with
    | nil => cases isEnd
    | cons first others =>
        obtain ⟨notReturn, notNewline⟩ :=
          verbatim _ (List.getLast?_eq_getLast_of_ne_nil (List.cons_ne_nil first others))
        simp [isLineEnd, notReturn, notNewline] at isEnd
  rw [read, stays]
  rfl

/-! ## Names and amounts -/

/-- What the words of an opening line mean: behind the last space stands an amount, and before it
the name, or all of it is the name. -/
inductive Means (standard : Amount) (args : List Char) : List Char → Amount → Prop
  | withAmount {file gap word : List Char} {amount : Amount} :
      args = file ++ gap ++ ' ' :: word → ' ' ∉ word → (∀ c ∈ gap, isBlank c = true) →
      Trimmed file → Amount.read word = .ok amount → Means standard args file amount
  | withoutAmount :
      (∀ before word amount, args = before ++ ' ' :: word → ' ' ∉ word →
        Amount.read word ≠ .ok amount) →
      Means standard args args standard

/-- The words of an opening line mean something. -/
theorem exists_means (standard : Amount) (trimmed : Trimmed args) :
    ∃ file amount, Means standard args file amount := by
  by_cases hasAmount : ∃ before word amount,
      args = before ++ ' ' :: word ∧ ' ' ∉ word ∧ Amount.read word = .ok amount
  · obtain ⟨before, word, amount, rfl, noSpace, isAmount⟩ := hasAmount
    obtain ⟨around, gap, whole, blankAround, blankGap⟩ := exists_trimChars before
    have nothingAround : around = [] := by
      cases around with
      | nil => rfl
      | cons first others =>
          rw [whole] at trimmed
          have notBlank := trimmed.begins first rfl
          rw [blankAround first List.mem_cons_self] at notBlank
          cases notBlank
    rw [nothingAround, List.nil_append] at whole
    exact ⟨trimChars before, amount,
      .withAmount (congrArg (· ++ ' ' :: word) whole) noSpace blankGap (trimmed_trimChars before)
        isAmount⟩
  · refine ⟨args, standard, .withoutAmount ?_⟩
    intro before word amount same noSpace isAmount
    exact hasAmount ⟨before, word, amount, same, noSpace, isAmount⟩

namespace Means

/-- A file that is meant has a name, with no blanks at its ends. -/
theorem named
    (means : Means standard args file amount)
    (trimmed : Trimmed args)
    (nonempty : args ≠ []) :
    file ≠ [] ∧ Trimmed file := by
  cases means with
  | withoutAmount => exact ⟨nonempty, trimmed⟩
  | @withAmount _ gap word _ same _ blankGap trimmedFile =>
      refine ⟨?_, trimmedFile⟩
      rintro rfl
      rw [List.nil_append] at same
      rw [same] at trimmed
      cases gap with
      | nil => cases trimmed.begins ' ' rfl
      | cons first others =>
          have notBlank := trimmed.begins first rfl
          rw [blankGap first List.mem_cons_self] at notBlank
          cases notBlank

/-- An amount that is meant is positive: it was written, or it is the standard amount. -/
theorem isPositiveFinite
    (means : Means standard args file amount)
    (positive : standard.value.isPositiveFinite = true) :
    amount.value.isPositiveFinite = true := by
  cases means with
  | withAmount _ _ _ _ isAmount => exact Amount.isPositiveFinite_of_read isAmount
  | withoutAmount => exact positive

/-- What is meant is read. -/
theorem readOpen_eq
    (means : Means standard args file amount)
    (trimmed : Trimmed args)
    (nonempty : args ≠ []) :
    readOpen args standard = .ok (.openFile (String.ofList file) amount) := by
  have notEmpty : file.isEmpty = false :=
    List.isEmpty_eq_false_iff.mpr (means.named trimmed nonempty).1
  unfold readOpen
  cases means with
  | @withAmount _ gap word _ same noSpace blankGap trimmedFile isAmount =>
      have name : trimChars (file ++ gap) = file :=
        trimChars_append (List.forall_mem_nil _) blankGap trimmedFile
      simp only [same, splitLast_append _ noSpace, isAmount, name, notEmpty]
      rfl
  | withoutAmount noAmount =>
      cases split : splitLast ' ' args with
      | none =>
          simp only [notEmpty]
          rfl
      | some parts =>
          obtain ⟨before, word⟩ := parts
          obtain ⟨same, noSpace⟩ := splitLast_eq_some split
          cases isAmount : Amount.read word with
          | error error =>
              simp only [isAmount, notEmpty]
              rfl
          | ok amount => exact absurd isAmount (noAmount before word amount same noSpace)

end Means

/-- The words of an opening line are read as what they mean. -/
theorem readOpen_eq_ok_iff (trimmed : Trimmed args) (nonempty : args ≠ []) :
    readOpen args standard = .ok (.openFile (String.ofList file) amount) ↔
      Means standard args file amount := by
  refine ⟨?_, fun means => means.readOpen_eq trimmed nonempty⟩
  intro isControl
  obtain ⟨otherFile, otherAmount, means⟩ := exists_means standard trimmed
  rw [means.readOpen_eq trimmed nonempty, Except.ok.injEq, openFile.injEq,
    String.ofList_inj] at isControl
  obtain ⟨rfl, rfl⟩ := isControl
  exact means

/-! ## Lines that open a file -/

/-- Something follows the letter and the space: otherwise the space would have been trimmed too. -/
theorem trimChars_ne_nil (isOpening : trimChars line = 'o' :: ' ' :: args) :
    trimChars args ≠ [] := by
  intro nothing
  obtain ⟨before, after, whole, blankBefore, blankAfter⟩ := exists_trimChars args
  rw [nothing, List.append_nil] at whole
  have blankArgs : ∀ c ∈ ' ' :: args, isBlank c = true := by
    rw [List.forall_mem_cons, whole, List.forall_mem_append]
    exact ⟨by decide, blankBefore, blankAfter⟩
  have trimmed := trimmed_trimChars line
  rw [isOpening] at trimmed
  have isLast : (' ' :: args).getLast (List.cons_ne_nil _ _) ∈ ('o' :: ' ' :: args).getLast? := by
    rw [List.getLast?_cons_cons, List.getLast?_eq_getLast_of_ne_nil (List.cons_ne_nil _ _)]
    rfl
  have notBlank := trimmed.ends _ isLast
  rw [blankArgs _ (List.getLast_mem _)] at notBlank
  cases notBlank

/-- A line opens a file exactly if, apart from blanks, it is the letter, a space and words that mean
the file and the amount. -/
theorem read_eq_openFile_iff :
    read line standard = .ok (some (.openFile (String.ofList file) amount)) ↔
      ∃ args, trimChars line = 'o' :: ' ' :: args ∧
        Means standard (trimChars args) file amount := by
  constructor
  · intro isControl
    unfold read at isControl
    split at isControl
    · cases isControl
    · rw [trimChars_stripEndWhere, readPlain_eq_openFile_iff] at isControl
      obtain ⟨args, isOpening, isControl⟩ := isControl
      rw [readOpen_eq_ok_iff (trimmed_trimChars args) (trimChars_ne_nil isOpening)] at isControl
      exact ⟨args, isOpening, isControl⟩
  · rintro ⟨args, isOpening, means⟩
    rw [read_of_letter isOpening, readPlain_eq_openFile_iff]
    exact ⟨args, rfl, means.readOpen_eq (trimmed_trimChars args) (trimChars_ne_nil isOpening)⟩

/-- Words that are trimmed are read behind the letter and a space as what they mean. -/
theorem read_open_eq
    (means : Means standard args file amount)
    (trimmed : Trimmed args)
    (nonempty : args ≠ []) :
    read ('o' :: ' ' :: args) standard =
      .ok (some (.openFile (String.ofList file) amount)) := by
  have letter : Trimmed ['o'] := by decide
  have trimmedLine : trimChars ('o' :: ' ' :: args) = 'o' :: ' ' :: args :=
    trimChars_eq_self (letter.append [' '] trimmed (by decide) nonempty)
  refine read_eq_openFile_iff.mpr ⟨args, trimmedLine, ?_⟩
  rwa [trimChars_eq_self trimmed]

/-- A name that a file can be opened by: there is one, and it has no blanks at its ends. -/
structure IsFileName (file : String) : Prop where
  /-- The name is not empty. -/
  nonempty : file ≠ ""
  /-- It has no blanks at its ends. -/
  trimmed : Trimmed file.toList

/-- The line that opens a file by its name and an amount. -/
def openLine (file : String) (amount : Amount) : String := "o " ++ file ++ " " ++ amount.text

theorem parse_openLine
    {file : String}
    (isName : IsFileName file)
    (positive : amount.value.isPositiveFinite = true)
    (standard : Amount) :
    parse (openLine file amount) standard = .ok (some (.openFile file amount)) := by
  have named : file.toList ≠ [] := by simpa using isName.nonempty
  have written : (openLine file amount).toList =
      'o' :: ' ' :: (file.toList ++ ([' '] ++ amount.text.toList)) := by
    simp [openLine]
  have noBlank : ∀ c ∈ amount.text.toList, isBlank c = false :=
    fun c member => (amount.plain_of_mem_text member).1
  have noSpace : ' ' ∉ amount.text.toList := fun member => nomatch noBlank ' ' member
  have isAmount : Amount.read amount.text.toList = .ok amount :=
    (Amount.read_text_eq_ok_iff amount amount).mpr ⟨rfl, positive⟩
  have means : Means standard (file.toList ++ ([' '] ++ amount.text.toList)) file.toList amount :=
    .withAmount (by simp) noSpace (List.forall_mem_nil _) isName.trimmed isAmount
  have trimmed := isName.trimmed.append [' '] (.of_forall noBlank) named amount.text_ne_nil
  rw [parse, written, read_open_eq means trimmed (List.append_ne_nil_of_left_ne_nil named _),
    String.ofList_toList]

/-- A name and an amount that open a file can be written and read back.  A name alone is read with
the standard amount unless what stands behind its last space is an amount.  Every line that opens a
file names it without blanks at its ends, and what was read can be written and read back.  A filter
is taken as it stands up to the line end. -/
theorem parse_opens_file (standard : Amount) :
    (∀ file amount, IsFileName file → amount.value.isPositiveFinite = true →
      parse (openLine file amount) standard = .ok (some (.openFile file amount))) ∧
    (∀ file, IsFileName file →
      (∀ before word amount, file.toList = before ++ ' ' :: word → ' ' ∉ word →
        Amount.parse (String.ofList word) ≠ .ok amount) →
      parse ("o " ++ file) standard = .ok (some (.openFile file standard))) ∧
    (standard.value.isPositiveFinite = true →
      ∀ line file amount, parse line standard = .ok (some (.openFile file amount)) →
        IsFileName file ∧
          parse (openLine file amount) standard = .ok (some (.openFile file amount))) ∧
    ∀ pattern : String, (∀ c ∈ pattern.toList.getLast?, c ≠ '\r' ∧ c ≠ '\n') →
      parse ("/" ++ pattern) standard = .ok (some (.filter pattern)) := by
  refine ⟨fun file amount isName positive => parse_openLine isName positive standard, ?_, ?_, ?_⟩
  · intro file isName noAmount
    have means : Means standard file.toList file.toList standard := by
      refine .withoutAmount ?_
      intro before word amount same noSpace
      have refused := noAmount before word amount same noSpace
      rwa [Amount.parse, String.toList_ofList] at refused
    have named : file.toList ≠ [] := by simpa using isName.nonempty
    rw [parse, String.toList_append]
    exact (read_open_eq means isName.trimmed named).trans (by rw [String.ofList_toList])
  · intro positive line file amount isControl
    rw [← String.ofList_toList (s := file), parse, read_eq_openFile_iff] at isControl
    obtain ⟨args, isOpening, means⟩ := isControl
    obtain ⟨named, trimmed⟩ := means.named (trimmed_trimChars args) (trimChars_ne_nil isOpening)
    have isName : IsFileName file := ⟨by simpa using named, trimmed⟩
    exact ⟨isName, parse_openLine isName (means.isPositiveFinite positive) standard⟩
  · intro pattern verbatim
    rw [parse, String.toList_append]
    exact (read_filter_eq verbatim).trans (by rw [String.ofList_toList])

/-- A name may end like an amount, and blanks of any kind may stand around the parts. -/
theorem parse_opens_file_amountInName :
    let half : Amount := ⟨.ofRatio false 1 2, .kb⟩
    let line := "\to  a 5MB\t 0.5KB \r\n"
    parse line .standard = .ok (some (.openFile "a 5MB" half)) ∧
      openLine "a 5MB" half = "o a 5MB 0.5kb" ∧
      parse (openLine "a 5MB" half) .standard = .ok (some (.openFile "a 5MB" half)) ∧
      parse (openLine "5mb" half) .standard = .ok (some (.openFile "5mb" half)) ∧
      parse ("o " ++ "5mb") .standard = .ok (some (.openFile "5mb" .standard)) ∧
      parse ("/" ++ " 5mb ") .standard = .ok (some (.filter " 5mb ")) := by
  intro half line
  have isControl : parse line .standard = .ok (some (.openFile "a 5MB" half)) := by decide +kernel
  have written : openLine "a 5MB" half = "o a 5MB 0.5kb" := by decide +kernel
  obtain ⟨withAmount, alone, again, verbatim⟩ := parse_opens_file .standard
  have isName : IsFileName "5mb" := ⟨by decide, by decide⟩
  refine ⟨isControl, written, (again (by decide +kernel) line _ _ isControl).2,
    withAmount "5mb" half isName (by decide +kernel), alone "5mb" isName ?_,
    verbatim " 5mb " ?_⟩
  · intro before word amount same
    have space : ' ' ∈ "5mb".toList := by
      rw [same]
      exact List.mem_append_right before List.mem_cons_self
    exact absurd space (by decide)
  · rw [show " 5mb ".toList.getLast? = some ' ' by decide]
    rintro _ ⟨⟩
    decide

end Control
end TailView
