import TailView.Main
import TailView.Storage.Memory
import TailView.Proofs.Assembly
import TailView.Proofs.RequestLines
import TailView.Proofs.RequestQueue
import TailView.Proofs.Scrollback
import TailView.Proofs.CommandLine.SetConfig
import TailView.Proofs.CommandLine.StartCommand
import TailView.Proofs.Display.Colors
import TailView.Proofs.Display.EntryLines
import TailView.Proofs.Display.JsonLines
import TailView.Proofs.Display.Screen
import TailView.Proofs.Display.StrippedLines
import TailView.Proofs.Link.Delay
import TailView.Proofs.Pattern.Literal
import TailView.Proofs.Session.Agreement
import TailView.Proofs.Session.Announced
import TailView.Proofs.Session.Capacity
import TailView.Proofs.Session.Control
import TailView.Proofs.Session.Correlation
import TailView.Proofs.Session.Framing
import TailView.Proofs.Session.Identity
import TailView.Proofs.Session.Loop
import TailView.Proofs.Session.Presentation
import TailView.Proofs.Session.Restart
import TailView.Proofs.Session.Typing
