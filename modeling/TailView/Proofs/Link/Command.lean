import TailView.Link.Command
import TailView.Proofs.Amount

/-!
# Commands read back

A command is cut at its first two colons, and what stands behind them is its file.  A command that
was sent reads back as the same command exactly if its amount is a positive number and its file has
a name.  No text is read as a command with any other amount or without a file, so what was read can
be sent again in either mode.
-/

namespace TailView

namespace Command

/-! ## Reading -/

/-- A text with an amount between two colons is read as a command if the amount is read and
something follows the second colon. -/
theorem parse_append_eq_ok_iff
    {mode : Mode}
    {amountText file : String}
    {command : Command}
    (noColon : ':' ∉ amountText.toList) :
    parse (mode.name ++ ":" ++ amountText ++ ":" ++ file) = .ok command ↔
      command.mode = mode ∧ command.file = file ∧ file ≠ "" ∧
        Amount.parse amountText = .ok command.amount := by
  have written : (mode.name ++ ":" ++ amountText ++ ":" ++ file).toList =
      mode.name.toList ++ ':' :: (amountText.toList ++ ':' :: file.toList) := by
    simp
  have modeColon : ':' ∉ mode.name.toList := by cases mode <;> decide
  have isMode : Mode.ofName? mode.name = some mode := by cases mode <;> rfl
  rw [parse, written, read, Text.splitFirst_append _ modeColon, Amount.parse]
  simp only [String.ofList_toList, isMode, Text.splitFirst_append _ noColon]
  obtain ⟨otherMode, otherAmount, otherFile⟩ := command
  by_cases named : file = ""
  · simp [named]
  · have notEmpty : file.toList.isEmpty = false := by simpa using named
    rw [notEmpty, if_neg (by decide)]
    cases Amount.read amountText.toList with
    | error error => simp
    | ok amount => simp [named, eq_comm, and_comm]

theorem Mode.name_of_ofName? {word : String} {mode : Mode} (isMode : ofName? word = some mode) :
    mode.name = word := by
  unfold ofName? at isMode
  split at isMode <;> cases isMode <;> rfl

/-- What is read as a command has two colons before its file. -/
theorem exists_of_parse {s : String} {command : Command} (isCommand : parse s = .ok command) :
    ∃ amountText, s = command.mode.name ++ ":" ++ amountText ++ ":" ++ command.file ∧
      ':' ∉ amountText.toList := by
  rw [parse, read] at isCommand
  split at isCommand
  · cases isCommand
  next word rest firstColon =>
    split at isCommand
    · cases isCommand
    next mode isMode =>
      split at isCommand
      · cases isCommand
      next amountText file secondColon =>
        split at isCommand
        · cases isCommand
        · split at isCommand
          · cases isCommand
          · cases isCommand
            obtain ⟨cut, -⟩ := Text.splitFirst_eq_some firstColon
            obtain ⟨rfl, noColon⟩ := Text.splitFirst_eq_some secondColon
            refine ⟨String.ofList amountText, ?_, by rwa [String.toList_ofList]⟩
            rw [Mode.name_of_ofName? isMode, ← String.toList_inj, cut]
            simp

/-- A command that was sent is read as itself if it asks for a positive amount of a file with a
name, and refused otherwise. -/
theorem parse_wire_eq_ok_iff (command other : Command) :
    parse command.wire = .ok other ↔
      other = command ∧ command.amount.value.isPositiveFinite = true ∧ command.file ≠ "" := by
  obtain ⟨mode, amount, file⟩ := command
  obtain ⟨otherMode, otherAmount, otherFile⟩ := other
  rw [wire, parse_append_eq_ok_iff amount.colon_not_mem_text, Amount.parse,
    Amount.read_text_eq_ok_iff, mk.injEq]
  tauto

/-- A command reads back if its amount is a positive number and its file has a name.  A text that is
read as a command has the file verbatim behind its second colon, and what was read reads back in
either mode. -/
theorem wire_reads_back (s : String) (command : Command) :
    (parse command.wire = .ok command ↔
      command.amount.value.isPositiveFinite = true ∧ command.file ≠ "") ∧
      (parse s = .ok command →
        (∃ word amountText, s = word ++ ":" ++ amountText ++ ":" ++ command.file ∧
          ':' ∉ word.toList ∧ ':' ∉ amountText.toList ∧ word = command.mode.name ∧
          Amount.parse amountText = .ok command.amount) ∧
        parse command.wire = .ok command ∧
        ∀ mode, parse { command with mode }.wire = .ok { command with mode }) := by
  have readsBack : ∀ command : Command, parse command.wire = .ok command ↔
      command.amount.value.isPositiveFinite = true ∧ command.file ≠ "" := by
    intro command
    rw [parse_wire_eq_ok_iff]
    exact and_iff_right rfl
  refine ⟨readsBack command, fun isCommand => ?_⟩
  obtain ⟨amountText, rfl, noColon⟩ := exists_of_parse isCommand
  obtain ⟨-, -, named, isAmount⟩ := (parse_append_eq_ok_iff noColon).mp isCommand
  have positive := Amount.isPositiveFinite_of_read isAmount
  have modeColon : ':' ∉ command.mode.name.toList := by cases command.mode <;> decide
  exact ⟨⟨command.mode.name, amountText, rfl, modeColon, noColon, rfl, isAmount⟩,
    (readsBack command).mpr ⟨positive, named⟩, fun _ => (readsBack _).mpr ⟨positive, named⟩⟩

/-- Blanks and a plus sign are not sent again, and a colon in the file is. -/
theorem wire_reads_back_colonInFile :
    let command : Command := ⟨.follow, ⟨.ofRatio false 1 2, .mb⟩, "C:\\logs\\a b.log"⟩
    parse "follow: +.50MB :C:\\logs\\a b.log" = .ok command ∧
      command.wire = "follow:0.5mb:C:\\logs\\a b.log" ∧ parse command.wire = .ok command ∧
      parse { command with mode := .tail }.wire = .ok { command with mode := .tail } := by
  intro command
  have isCommand : parse "follow: +.50MB :C:\\logs\\a b.log" = .ok command := by decide +kernel
  have written : command.wire = "follow:0.5mb:C:\\logs\\a b.log" := by decide +kernel
  obtain ⟨-, again⟩ := wire_reads_back "follow: +.50MB :C:\\logs\\a b.log" command
  exact ⟨isCommand, written, (again isCommand).2.1, (again isCommand).2.2 .tail⟩

end Command
end TailView
