import CoverageWindows.Abi
import CoverageWindows.Artifact
import CoverageWindows.Backend
import CoverageWindows.Bytes
import CoverageWindows.Collector.Basic
import CoverageWindows.Collector.Image
import CoverageWindows.Collector.Program
import CoverageWindows.CommandLine.Arguments
import CoverageWindows.CommandLine.Help
import CoverageWindows.CommandLine.Run
import CoverageWindows.Count
import CoverageWindows.Decimal.Natural
import CoverageWindows.Decimal.Shortest
import CoverageWindows.Failure
import CoverageWindows.Files.Access
import CoverageWindows.Files.Path
import CoverageWindows.Files.Tree
import CoverageWindows.Json.Fault
import CoverageWindows.Json.Number
import CoverageWindows.Json.Quote
import CoverageWindows.Json.Reader
import CoverageWindows.Json.Writer
import CoverageWindows.LineProfile
import CoverageWindows.LogSettings
import CoverageWindows.Main
import CoverageWindows.Mark.Basic
import CoverageWindows.Mark.Document
import CoverageWindows.Mark.Reconstruct
import CoverageWindows.Memory.Region
import CoverageWindows.Memory.Reset
import CoverageWindows.Memory.ValueProfile
import CoverageWindows.Object.Addresses
import CoverageWindows.Object.Basic
import CoverageWindows.Object.Elf
import CoverageWindows.Object.Format
import CoverageWindows.Object.MachO
import CoverageWindows.Object.ProfileRuntime
import CoverageWindows.Plugin.Adapter
import CoverageWindows.Plugin.Foreign
import CoverageWindows.Plugin.Library
import CoverageWindows.Plugin.Script
import CoverageWindows.ProfilePath
import CoverageWindows.Proofs.Collector.Calls
import CoverageWindows.Proofs.Collector.Isolation
import CoverageWindows.Proofs.Collector.Program
import CoverageWindows.Proofs.Collector.Refusals
import CoverageWindows.Proofs.Collector.Session
import CoverageWindows.Proofs.Collector.Tokens
import CoverageWindows.Proofs.CommandLine.Merging
import CoverageWindows.Proofs.Files.Writes
import CoverageWindows.Proofs.Json.Mapped
import CoverageWindows.Proofs.Json.Written
import CoverageWindows.Proofs.Snapshot.Collect
import CoverageWindows.Proofs.Snapshot.Listing
import CoverageWindows.Proofs.Snapshot.ListingDocument
import CoverageWindows.Proofs.Snapshot.Merge
import CoverageWindows.Proofs.Snapshot.RoundTrip
import CoverageWindows.Registry
import CoverageWindows.Settings
import CoverageWindows.Snapshot.Basic
import CoverageWindows.Snapshot.Document
import CoverageWindows.Span
import CoverageWindows.Table
import CoverageWindows.Text.Blank
import CoverageWindows.Text.LowerCase
import CoverageWindows.Text.LowerCase.Table
import CoverageWindows.Text.Quoted
import CoverageWindows.Text.Styled
import CoverageWindows.Text.Unprintable
import CoverageWindows.Text.Utf8
import CoverageWindows.Proofs.Registry.Sharing
import CoverageWindows.Proofs.Collector.Making
import CoverageWindows.Proofs.Collector.Strangers
import CoverageWindows.Proofs.Collector.Succession
import CoverageWindows.Proofs.Mark.Runs
import CoverageWindows.Proofs.Text.ByteOrder
import CoverageWindows.Proofs.Snapshot.Keys
import CoverageWindows.Proofs.Plugin.Exchanges
import CoverageWindows.Proofs.Plugin.Parsers
import CoverageWindows.Proofs.Mark.Positions
import CoverageWindows.Proofs.ProfilePath.Tokens
import CoverageWindows.Proofs.ProfilePath.Preparing
import CoverageWindows.Proofs.Collector.ResetOrder
import CoverageWindows.Proofs.Object.Addresses
import CoverageWindows.Proofs.Plugin.Decoding
import CoverageWindows.Proofs.Memory.Reset
import CoverageWindows.Proofs.Snapshot.Summary
import CoverageWindows.Proofs.Settings.Environment
import CoverageWindows.Proofs.Object.ProfileRuntime
import CoverageWindows.Proofs.Files.Parent
import CoverageWindows.Proofs.Files.Folders
import CoverageWindows.Proofs.Text.Lossy
import CoverageWindows.Proofs.Artifact.Search
