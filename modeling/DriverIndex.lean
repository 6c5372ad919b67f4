import DriverIndex.Artifact
import DriverIndex.Calendar
import DriverIndex.Command
import DriverIndex.CommandLine
import DriverIndex.Discovery
import DriverIndex.Failure
import DriverIndex.FileSystem.Basic
import DriverIndex.FileSystem.Edit
import DriverIndex.Group
import DriverIndex.Log.Directive.Basic
import DriverIndex.Log.Directive.Reader
import DriverIndex.Log.Event
import DriverIndex.Log.Filter
import DriverIndex.Log.Pattern.Bracket
import DriverIndex.Log.Pattern.Escape
import DriverIndex.Log.Pattern.Reader
import DriverIndex.Log.Traced
import DriverIndex.Main
import DriverIndex.Marker
import DriverIndex.Naming
import DriverIndex.Path
import DriverIndex.Proofs.Artifact.Agreement
import DriverIndex.Proofs.Artifact.Clash
import DriverIndex.Proofs.Artifact.Dating
import DriverIndex.Proofs.Artifact.Identifier
import DriverIndex.Proofs.Command.Completion
import DriverIndex.Proofs.Discovery.Growth
import DriverIndex.Proofs.Discovery.Root
import DriverIndex.Proofs.Discovery.Sources
import DriverIndex.Proofs.Discovery.Suffix
import DriverIndex.Proofs.Discovery.Walk
import DriverIndex.Proofs.FileSystem.Growth
import DriverIndex.Proofs.FileSystem.Reading
import DriverIndex.Proofs.FileSystem.Resolution
import DriverIndex.Proofs.FileSystem.Tree
import DriverIndex.Proofs.FileSystem.Writing
import DriverIndex.Proofs.Marker.Grammar
import DriverIndex.Proofs.Marker.Locality
import DriverIndex.Proofs.Marker.Occurrence
import DriverIndex.Proofs.Marker.Writing
import DriverIndex.Proofs.Path.Join
import DriverIndex.Proofs.Path.Order
import DriverIndex.Proofs.Publication.Effect
import DriverIndex.Proofs.Registry.Closing
import DriverIndex.Proofs.Registry.Collisions
import DriverIndex.Proofs.Registry.Growth
import DriverIndex.Proofs.Registry.History
import DriverIndex.Proofs.Registry.Invariant
import DriverIndex.Proofs.Registry.Likeness
import DriverIndex.Proofs.Registry.Outcomes
import DriverIndex.Proofs.Registry.Reordering
import DriverIndex.Proofs.Registry.Step
import DriverIndex.Proofs.Scan.Calls
import DriverIndex.Proofs.Scan.FirstFailure
import DriverIndex.Proofs.Scan.Log
import DriverIndex.Proofs.Scan.Rerun
import DriverIndex.Proofs.Scan.Run
import DriverIndex.Proofs.Settings.Acceptance
import DriverIndex.Proofs.SlotTable.Density
import DriverIndex.Proofs.SlotTable.Growth
import DriverIndex.Proofs.SlotTable.LayeredTags
import DriverIndex.Proofs.SlotTable.Numbering
import DriverIndex.Proofs.SlotTable.Placement
import DriverIndex.Proofs.Summary.Document
import DriverIndex.Proofs.Summary.Totals
import DriverIndex.Proofs.Text.Blank
import DriverIndex.Proofs.Text.Case
import DriverIndex.Proofs.Text.Decimal
import DriverIndex.Proofs.Text.Encoding
import DriverIndex.Proofs.Text.Json.Grammar
import DriverIndex.Proofs.Text.Json.Reader
import DriverIndex.Proofs.Text.Line
import DriverIndex.Proofs.Text.Utf8
import DriverIndex.Publication
import DriverIndex.Registry
import DriverIndex.Scan
import DriverIndex.Settings
import DriverIndex.SlotTable
import DriverIndex.Summary
import DriverIndex.Text.Alphanumeric
import DriverIndex.Text.Blank
import DriverIndex.Text.Case
import DriverIndex.Text.CaseTable
import DriverIndex.Text.Decimal
import DriverIndex.Text.Digit
import DriverIndex.Text.Json
import DriverIndex.Text.Line
import DriverIndex.Text.Utf8
import DriverIndex.Toml.Moment
import DriverIndex.Toml.Number
import DriverIndex.Toml.Reader
import DriverIndex.Toml.Value
