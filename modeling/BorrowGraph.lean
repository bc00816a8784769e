import BorrowGraph.Analysis
import BorrowGraph.Assoc
import BorrowGraph.Atom
import BorrowGraph.Body
import BorrowGraph.Bundle
import BorrowGraph.CommandLine.Arguments
import BorrowGraph.CommandLine.Help
import BorrowGraph.CommandLine.Session
import BorrowGraph.CommandLine.Sources
import BorrowGraph.Completion
import BorrowGraph.Diagnostic
import BorrowGraph.Edge
import BorrowGraph.Encoding
import BorrowGraph.Encoding.Backslash
import BorrowGraph.Encoding.Designated
import BorrowGraph.Encoding.Grid
import BorrowGraph.Encoding.Grid.Chinese
import BorrowGraph.Encoding.Grid.Japanese
import BorrowGraph.Encoding.Grid.Korean
import BorrowGraph.Encoding.Label
import BorrowGraph.Encoding.MultiByte
import BorrowGraph.Encoding.Names
import BorrowGraph.Encoding.Punycode
import BorrowGraph.Encoding.Scan
import BorrowGraph.Encoding.Utf7
import BorrowGraph.Facts
import BorrowGraph.Facts.Source
import BorrowGraph.Fault
import BorrowGraph.FileError
import BorrowGraph.FileTree
import BorrowGraph.Initialization
import BorrowGraph.Json
import BorrowGraph.Liveness
import BorrowGraph.Log
import BorrowGraph.Main
import BorrowGraph.Number.Binary64
import BorrowGraph.Number.Decimal
import BorrowGraph.Owners
import BorrowGraph.Owners.Listing
import BorrowGraph.Path
import BorrowGraph.Pipeline
import BorrowGraph.Point
import BorrowGraph.PointTable
import BorrowGraph.Report
import BorrowGraph.Report.Dot
import BorrowGraph.Report.Write
import BorrowGraph.Settings
import BorrowGraph.Settings.Library
import BorrowGraph.Settings.Load
import BorrowGraph.Settings.Standard
import BorrowGraph.Settings.Standard.Check
import BorrowGraph.Settings.Standard.Companions
import BorrowGraph.Settings.Standard.Directive
import BorrowGraph.Settings.Standard.Flags
import BorrowGraph.Settings.Standard.Flags.Mark
import BorrowGraph.Settings.Standard.Flags.Style
import BorrowGraph.Settings.Surroundings
import BorrowGraph.Text.Argument
import BorrowGraph.Text.Blank
import BorrowGraph.Text.Case
import BorrowGraph.Text.CharacterNames
import BorrowGraph.Text.Digit
import BorrowGraph.Text.Identifier
import BorrowGraph.Text.Lines
import BorrowGraph.Text.Printable
import BorrowGraph.Text.Quoted
import BorrowGraph.Text.Split
import BorrowGraph.Text.Word
import BorrowGraph.Text.Wrap
import BorrowGraph.Toml
import BorrowGraph.Utf8
import BorrowGraph.Value
import BorrowGraph.Value.Access
import BorrowGraph.Proofs.Results
import BorrowGraph.Proofs.Grouping
import BorrowGraph.Proofs.LeastModel
import BorrowGraph.Proofs.Eligibility
import BorrowGraph.Proofs.Issuing
import BorrowGraph.Proofs.CompletionPlan
import BorrowGraph.Proofs.Recompletion
import BorrowGraph.Proofs.Conservation
import BorrowGraph.Proofs.Tasks
import BorrowGraph.Proofs.Numbering
import BorrowGraph.Proofs.ReportCells
import BorrowGraph.Proofs.AnalysisResult
import BorrowGraph.Proofs.ReportExactness
import BorrowGraph.Proofs.FileTrees
import BorrowGraph.Proofs.ReportWriting
import BorrowGraph.Proofs.PipelineRuns
import BorrowGraph.Proofs.SourceIndependence
import BorrowGraph.Proofs.Isolation
import BorrowGraph.Proofs.KeepGoing
import BorrowGraph.Proofs.FailFast
import BorrowGraph.Proofs.FactSpelling
import BorrowGraph.Proofs.Renaming
import BorrowGraph.Proofs.CompletionNames
import BorrowGraph.Proofs.AnalysisNames
import BorrowGraph.Proofs.LineOrder
import BorrowGraph.Proofs.PointHistory
import BorrowGraph.Proofs.CompletionRounds
import BorrowGraph.Proofs.TextShape
import BorrowGraph.Proofs.AtomSpelling
import BorrowGraph.Proofs.Utf8Text
import BorrowGraph.Proofs.FactFiles
import BorrowGraph.Proofs.LoaderStates
import BorrowGraph.Proofs.FactExactness
import BorrowGraph.Proofs.RoundBound
import BorrowGraph.Proofs.LoanFlow
import BorrowGraph.Proofs.StrayPoints
import BorrowGraph.Proofs.OwnerTables
import BorrowGraph.Proofs.ReportRefusals
import BorrowGraph.Proofs.ListingFormat
import BorrowGraph.Proofs.ListingExactness
import BorrowGraph.Proofs.AtomicWriting
import BorrowGraph.Proofs.Markup
import BorrowGraph.Proofs.RenderedTables
import BorrowGraph.Proofs.Escaping
import BorrowGraph.Proofs.CellTexts
import BorrowGraph.Proofs.BodyLocations
import BorrowGraph.Proofs.BundleEntries
import BorrowGraph.Proofs.FileNames
import BorrowGraph.Proofs.ReaderErrors
import BorrowGraph.Proofs.DocumentErrors
import BorrowGraph.Proofs.BundleContainment
import BorrowGraph.Proofs.EdgeLines
import BorrowGraph.Proofs.AnalysisFailures
import BorrowGraph.Proofs.CompletionCounts
import BorrowGraph.Proofs.SettingsLaws
import BorrowGraph.Proofs.SettingsMerging
import BorrowGraph.Proofs.SettingsStandard
import BorrowGraph.Proofs.SettingsFiles
import BorrowGraph.Proofs.SettingsFailures
import BorrowGraph.Proofs.AtomRoundTrip
