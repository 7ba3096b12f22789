import BusReplay.Input.FileTree
import BusReplay.Main
import BusReplay.Run.Session
import BusReplay.Proofs.Profile.Rendering
import BusReplay.Proofs.Profile.AllOrNothing
import BusReplay.Proofs.Profile.Agreement
import BusReplay.Proofs.Profile.Determined
import BusReplay.Proofs.Profile.Payloads
import BusReplay.Proofs.Reproducer.Command
import BusReplay.Proofs.Reproducer.ParseFirst
import BusReplay.Proofs.Reproducer.Artifact
import BusReplay.Proofs.Run.SourceRun
import BusReplay.Proofs.Run.Program
import BusReplay.Proofs.Input.WholeText
import BusReplay.Proofs.Input.FileTree
import BusReplay.Proofs.Record.Grammar
import BusReplay.Proofs.Record.Filter
import BusReplay.Proofs.CommandLine.Given
import BusReplay.Proofs.CommandLine.Reader
import BusReplay.Proofs.CommandLine.Defaults
import BusReplay.Proofs.CommandLine.Files
import BusReplay.Proofs.CommandLine.Occurrence
import BusReplay.Proofs.CommandLine.Scope
import BusReplay.Proofs.CommandLine.Values
import BusReplay.Proofs.CommandLine.Precedence
import BusReplay.Proofs.Run.Misuse
import BusReplay.Proofs.Run.FirstCommand
import BusReplay.Proofs.Run.BrokenOutput
import BusReplay.Proofs.Run.LimitedOutput
import BusReplay.Proofs.Run.Contents
import BusReplay.Proofs.Run.LineEnds
import BusReplay.Proofs.Run.BrokenConfig
import BusReplay.Proofs.Shell.Expansion
import BusReplay.Proofs.CommandLine.Request
import BusReplay.Proofs.CommandLine.Splitting
import BusReplay.Proofs.CommandLine.Loss
import BusReplay.Proofs.Record.Embedded
import BusReplay.Proofs.Reproducer.Options
import BusReplay.Proofs.CommandLine.Sources
import BusReplay.Proofs.CommandLine.Requirements
import BusReplay.Proofs.Reproducer.Encoded
import BusReplay.Proofs.Run.Logging
import BusReplay.Proofs.Toml.Configuration
