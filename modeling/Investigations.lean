import Investigations.Text.Utf8
import Investigations.Text.Lines
import Investigations.Text.Blank
import Investigations.Text.Quoted
import Investigations.Files.Disk
import Investigations.Json.Print
import Investigations.Suggestion.Store
import Investigations.Build
import Investigations.Suggestion.Artifact
import Investigations.Main
import Investigations.Proofs.Text.Bytes
import Investigations.Proofs.Json.Token
import Investigations.Proofs.Json.Print
import Investigations.Proofs.Files.Path
import Investigations.Proofs.Files.Walk
import Investigations.Proofs.Files.Replace
import Investigations.Proofs.Files.Directories
import Investigations.Proofs.Files.Shape
import Investigations.Proofs.Suggestion.Sheet
import Investigations.Proofs.Suggestion.Store
import Investigations.Proofs.Suggestion.Grammar
import Investigations.Proofs.Build.Locate
import Investigations.Proofs.Build.Append
import Investigations.Proofs.Build.Session
import Investigations.Proofs.Build.Foreign
import Investigations.Proofs.Frame
import Investigations.Proofs.Statistics.Document
import Investigations.Proofs.Statistics.Restart
import Investigations.Proofs.Statistics.Report
import Investigations.Proofs.Suggestion.Canonical
import Investigations.Proofs.Statistics.Remembered
import Investigations.Proofs.Command.Output
import Investigations.Proofs.Command.Record
import Investigations.Proofs.Files.Way
import Investigations.Proofs.Command.Accumulate
import Investigations.Proofs.Command.Printed
import Investigations.Proofs.Files.Subtree
import Investigations.Proofs.Statistics.Counting
import Investigations.Proofs.Build.Commute
import Investigations.Proofs.Build.Batches
import Investigations.Proofs.Suggestion.LineEnds
import Investigations.Proofs.Suggestion.Splice
import Investigations.Proofs.Build.Resolve
import Investigations.Proofs.Command.Damaged
import Investigations.Proofs.Build.Tally
import Investigations.Proofs.Suggestion.Verdict
import Investigations.Proofs.Command.Options
import Investigations.Proofs.Command.Shown
import Investigations.Proofs.Command.Configured
