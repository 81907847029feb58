import TailView.CommandLine.Run
import TailView.Proofs.Link.Command
import TailView.Proofs.Session.Link

/-!
# The first command

A viewer that starts with a file asks the server for the configured amount of it, as soon as the
connection is open.  Options and variables of the environment give positive amounts only, but a file
of the configuration may have any number.  So the server can read the command exactly if the amount
does not come from a file with a number that is not positive.
-/

namespace TailView

open Number

namespace Config

/-! ## Where the amount comes from -/

theorem amount_load (files : List (List UInt8)) (environment : Environment) :
    (load files environment).amount = environment.amount?.getD (ofFiles files).amount :=
  rfl

theorem amount_withOverrides (config : Config) (overrides : Overrides) :
    (config.withOverrides overrides).amount = overrides.amount.getD config.amount :=
  rfl

/-- The environment gives positive amounts only. -/
theorem Environment.isPositiveFinite_of_amount?
    {environment : Environment}
    {amount : Amount}
    (given : environment.amount? = some amount) :
    amount.value.isPositiveFinite = true := by
  obtain ⟨text, _, isAmount⟩ := Option.bind_eq_some_iff.mp given
  cases parsed : Amount.parse text with
  | error error =>
      rw [parsed] at isAmount
      cases isAmount
  | ok other =>
      rw [parsed] at isAmount
      cases isAmount
      exact Amount.isPositiveFinite_of_read parsed

/-- With options that give positive amounts only, the amount is positive unless it comes from a file
with another number. -/
theorem isPositiveFinite_amount_iff
    (files : List (List UInt8))
    (environment : Environment)
    {overrides : Overrides}
    (written : ∀ amount, overrides.amount = some amount → ∃ text, Amount.parse text = .ok amount) :
    ((load files environment).withOverrides overrides).amount.value.isPositiveFinite = true ↔
      overrides.amount.isSome ∨ environment.amount?.isSome ∨
        (ofFiles files).amount.value.isPositiveFinite = true := by
  rw [amount_withOverrides, amount_load]
  cases fromOptions : overrides.amount with
  | some amount =>
      obtain ⟨text, isAmount⟩ := written amount fromOptions
      simpa using Amount.isPositiveFinite_of_read isAmount
  | none =>
      cases fromEnvironment : environment.amount? with
      | some amount => simpa using Environment.isPositiveFinite_of_amount? fromEnvironment
      | none => simp

end Config

namespace CommandLine

/-- The command for the configured amount of the configured file. -/
def startCommand (config : Config) : Command where
  mode := .ofFollow config.tail.follow
  amount := config.amount
  file := config.tail.file

/-- Options for the filter and the view do not concern the server. -/
theorem link_primed (options : RunOptions) (session : Session) :
    (primed options session).link = session.link ∧
      (primed options session).outbound = session.outbound := by
  rw [primed]
  cases options.filter <;> cases options.errorsOnly <;> exact ⟨rfl, rfl⟩

/-- The first message to the server is the command for the configured file. -/
theorem outbound_connected_openFile (options : RunOptions) (config : Config) :
    ((primed options (Session.ofOptions config.sessionOptions)).openFile config.tail.file
      config.amount).connected.outbound.toList = [(startCommand config).wire] := by
  obtain ⟨sameLink, sameOutbound⟩ :=
    link_primed options (Session.ofOptions config.sessionOptions)
  generalize primed options (Session.ofOptions config.sessionOptions) = session at *
  have opened := Session.sends_openFile session config.tail.file config.amount
  have connected := Session.sends_connected (session.openFile config.tail.file config.amount)
  rw [connected.outbound_eq, opened.outbound_eq, opened.link_eq, sameLink, sameOutbound]
  rfl

/-- The first message to the server is read as the command that it was made from exactly if the
amount comes from the options or the environment, or the number in the files is positive.  It is
never read as any other command. -/
theorem parse_startMessage_iff
    (files : List (List UInt8))
    (environment : Config.Environment)
    (options : RunOptions)
    (written : ∀ amount, options.overrides.amount = some amount →
      ∃ text, Amount.parse text = .ok amount)
    (named : ((Config.load files environment).withOverrides options.overrides).tail.file ≠ "") :
    let config := (Config.load files environment).withOverrides options.overrides
    let session := (primed options (Session.ofOptions config.sessionOptions)).openFile
      config.tail.file config.amount
    ∃ message, session.connected.outbound.toList = [message] ∧
      ∀ command, Command.parse message = .ok command ↔
        command = ⟨.ofFollow config.tail.follow, config.amount, config.tail.file⟩ ∧
          (options.overrides.amount.isSome ∨ environment.amount?.isSome ∨
            (Config.ofFiles files).amount.value.isPositiveFinite = true) := by
  intro config session
  refine ⟨_, outbound_connected_openFile options config, fun command => ?_⟩
  rw [Command.parse_wire_eq_ok_iff, ← Config.isPositiveFinite_amount_iff files environment written]
  exact and_congr_right fun _ => and_iff_left named

/-- A file with a named log and half a megabyte of it. -/
def halfFile : List UInt8 :=
  Text.Utf8.encodeString "[tail]\nfile = \"app.log\"\namount = 0.5\n"

/-- An amount above zero in a file is read back. -/
theorem parse_startMessage_halfFile :
    let config := (Config.load [halfFile] fun _ => none).withOverrides {}
    let session := (primed {} (Session.ofOptions config.sessionOptions)).openFile
      config.tail.file config.amount
    (∀ amount, ({} : RunOptions).overrides.amount = some amount →
      ∃ text, Amount.parse text = .ok amount) ∧ config.tail.file ≠ "" ∧
      ∃ message, session.connected.outbound.toList = [message] ∧
        Command.parse message = .ok ⟨.follow, config.amount, "app.log"⟩ := by
  intro config session
  have written : ∀ amount, ({} : RunOptions).overrides.amount = some amount →
      ∃ text, Amount.parse text = .ok amount := by
    intro amount given
    cases given
  have isFile : config.tail.file = "app.log" := by decide +kernel
  have follows : config.tail.follow = true := by decide +kernel
  have positive : (Config.ofFiles [halfFile]).amount.value.isPositiveFinite = true := by
    decide +kernel
  have named : config.tail.file ≠ "" := by
    rw [isFile]
    decide
  obtain ⟨message, sent, reads⟩ :=
    parse_startMessage_iff [halfFile] (fun _ => none) {} written named
  have same : (⟨.follow, config.amount, "app.log"⟩ : Command) =
      ⟨.ofFollow config.tail.follow, config.amount, config.tail.file⟩ := by
    rw [follows, isFile]
    rfl
  have isCommand := (reads ⟨.follow, config.amount, "app.log"⟩).mpr ⟨same, .inr (.inr positive)⟩
  exact ⟨written, named, message, sent, isCommand⟩

/-- A file with a negative amount. -/
def negativeFile : List UInt8 := Text.Utf8.encodeString "[tail]\namount = -1.0\n"

/-- The command for a negative amount is sent, but no command can be read from it. -/
theorem startMessage_negativeFile_refused :
    let environment : Config.Environment := fun name =>
      if name = "LOGTAIL_FILE" then some "app.log" else none
    let config := (Config.load [negativeFile] environment).withOverrides {}
    let session := (primed {} (Session.ofOptions config.sessionOptions)).openFile
      config.tail.file config.amount
    config.tail.file = "app.log" ∧
      session.connected.outbound.toList = ["follow:-1mb:app.log"] ∧
      ∀ command, Command.parse "follow:-1mb:app.log" ≠ .ok command := by
  intro environment config session
  have isFile : config.tail.file = "app.log" := by decide +kernel
  have message : (startCommand config).wire = "follow:-1mb:app.log" := by decide +kernel
  have negative : (startCommand config).amount.value.isPositiveFinite = false := by decide +kernel
  refine ⟨isFile, message ▸ outbound_connected_openFile {} config, fun command isCommand => ?_⟩
  rw [← message, Command.parse_wire_eq_ok_iff, negative] at isCommand
  cases isCommand.2.1

end CommandLine
end TailView
