import EasyConnect.Binary64.Nearest
import EasyConnect.Catalogue
import EasyConnect.Collector.Step
import EasyConnect.Histogram.Sample
import EasyConnect.Json.Reader
import EasyConnect.Proofs.Boundaries.Whole
import EasyConnect.Proofs.Collector.Coarsening
import EasyConnect.Proofs.Collector.Ledger
import EasyConnect.Proofs.Collector.Conservation
import EasyConnect.Proofs.Collector.Reporting
import EasyConnect.Proofs.Collector.Traces
import EasyConnect.Record.Kept
import EasyConnect.Settings
import EasyConnect.Proofs.Json.Grammar
import EasyConnect.Proofs.Json.Reader
import EasyConnect.Proofs.Record.Export
import EasyConnect.Proofs.Json.Writer
import EasyConnect.Proofs.Report
import EasyConnect.Proofs.Configuration
import EasyConnect.Proofs.Numeral
import EasyConnect.Proofs.Settings.History
import EasyConnect.Proofs.Settings.Loads
import EasyConnect.Proofs.Collector.Accounts
import EasyConnect.Proofs.Collector.Sums
import EasyConnect.Proofs.Boundaries.Reading
import EasyConnect.Proofs.Histogram
import EasyConnect.Proofs.Record.Listed
import EasyConnect.Proofs.Collector.Durations
import EasyConnect.Proofs.Collector.Statuses
import EasyConnect.Proofs.Record.Dump
import EasyConnect.Proofs.Report.Markdown
import EasyConnect.Proofs.Collector.OperationTime
import EasyConnect.Proofs.Boundaries.Tiling
import EasyConnect.Proofs.Boundaries.Acceptance
import EasyConnect.Proofs.Boundaries.Printing
import EasyConnect.Proofs.Record.Composition
