import Placard.Calendar
import Placard.Command.Argument
import Placard.Command.Config
import Placard.Command.Connections
import Placard.Command.Context
import Placard.Command.Failure
import Placard.Command.Invocation
import Placard.Command.Level
import Placard.Command.Line
import Placard.Command.Place
import Placard.Command.Render
import Placard.Command.Run
import Placard.Command.View
import Placard.Command.Watch
import Placard.Connection
import Placard.Connection.Record
import Placard.Decimal.Layout
import Placard.Decimal.Reading
import Placard.Decimal.Shortest
import Placard.Duration
import Placard.Duration.Reading
import Placard.Extraction
import Placard.Facts
import Placard.Json.Fault
import Placard.Json.Reader
import Placard.Json.Value
import Placard.Json.Writer
import Placard.Machine.Basic
import Placard.Machine.Disk
import Placard.Machine.Path
import Placard.Main
import Placard.Pattern.Basic
import Placard.Pattern.Bracket
import Placard.Pattern.Cursor
import Placard.Pattern.Escape
import Placard.Pattern.Fault
import Placard.Pattern.Meaning
import Placard.Pattern.Program
import Placard.Pattern.Reader
import Placard.Pattern.Search
import Placard.Pattern.Size
import Placard.Pattern.Syntax
import Placard.Placement
import Placard.Proofs.Command.Accord
import Placard.Proofs.Command.Agreement
import Placard.Proofs.Command.Arguments
import Placard.Proofs.Command.Budget
import Placard.Proofs.Command.Connections
import Placard.Proofs.Command.Discretion
import Placard.Proofs.Command.Effects
import Placard.Proofs.Command.Initial
import Placard.Proofs.Command.Quiet
import Placard.Proofs.Command.Secrecy
import Placard.Proofs.Command.Shown
import Placard.Proofs.Command.Spared
import Placard.Proofs.Command.Together
import Placard.Proofs.Decimal.Marked
import Placard.Proofs.Decimal.Numeral
import Placard.Proofs.Extraction
import Placard.Proofs.Extraction.Matched
import Placard.Proofs.Extraction.Numbers
import Placard.Proofs.Json.Complete
import Placard.Proofs.Json.Grammar
import Placard.Proofs.Json.Items
import Placard.Proofs.Json.Literals
import Placard.Proofs.Json.Located
import Placard.Proofs.Json.Normal
import Placard.Proofs.Json.Numbers
import Placard.Proofs.Json.Skipped
import Placard.Proofs.Json.Sound
import Placard.Proofs.Keyed
import Placard.Proofs.Machine.Accord
import Placard.Proofs.Machine.Alike
import Placard.Proofs.Machine.Directories
import Placard.Proofs.Machine.Disk
import Placard.Proofs.Machine.Named
import Placard.Proofs.Machine.Path
import Placard.Proofs.Machine.Rooted
import Placard.Proofs.Machine.Run
import Placard.Proofs.Pattern.Addresses
import Placard.Proofs.Pattern.Leftmost
import Placard.Proofs.Pattern.Runs
import Placard.Proofs.Pattern.Settling
import Placard.Proofs.Pattern.Spans
import Placard.Proofs.Placement
import Placard.Proofs.Refresh.Accord
import Placard.Proofs.Refresh.Harmless
import Placard.Proofs.Refresh.History
import Placard.Proofs.Refresh.Job
import Placard.Proofs.Refresh.Recorded
import Placard.Proofs.Refresh.Schedule
import Placard.Proofs.Registry.Collapsed
import Placard.Proofs.Registry.Decoded
import Placard.Proofs.Registry.Filling
import Placard.Proofs.Registry.Listed
import Placard.Proofs.Registry.Persistence
import Placard.Proofs.Registry.RoundTrip
import Placard.Proofs.Registry.Run
import Placard.Proofs.Registry.Shared
import Placard.Proofs.Registry.Sound
import Placard.Proofs.Registry.Veiled
import Placard.Proofs.Report.Exchange
import Placard.Proofs.Report.Filled
import Placard.Proofs.Report.Order
import Placard.Proofs.Report.OwnTag
import Placard.Proofs.Report.Replaced
import Placard.Proofs.Report.Values
import Placard.Proofs.Settings.Accord
import Placard.Proofs.Settings.Filed
import Placard.Proofs.Settings.Layers
import Placard.Proofs.Settings.RoundTrip
import Placard.Proofs.Settings.Secrets
import Placard.Proofs.Settings.Texts
import Placard.Proofs.Settings.Timeout
import Placard.Proofs.Shell.Accord
import Placard.Proofs.Source.Files
import Placard.Proofs.Source.Header
import Placard.Proofs.Template.Occurrences
import Placard.Proofs.Template.Tiling
import Placard.Proofs.Template.Values
import Placard.Proofs.Text.Blank
import Placard.Proofs.Text.Mended
import Placard.Proofs.Text.Utf8
import Placard.Refresh
import Placard.Registry
import Placard.Registry.Record
import Placard.Registry.Secret
import Placard.Report
import Placard.Resolution
import Placard.Settings
import Placard.Settings.Fault
import Placard.Settings.Given
import Placard.Settings.Reading
import Placard.Settings.Record
import Placard.Settings.Store
import Placard.Settings.Variable
import Placard.Settings.Writing
import Placard.Shell.Arithmetic
import Placard.Shell.Run
import Placard.Shell.Syntax
import Placard.Shell.Tools
import Placard.Source
import Placard.Source.Certificate
import Placard.Source.Credentials
import Placard.Source.Fault
import Placard.Source.Fetch
import Placard.Source.Transport
import Placard.Template
import Placard.Text.Base64
import Placard.Text.Blank
import Placard.Text.Grid
import Placard.Text.Quoted
import Placard.Text.Split
import Placard.Text.Utf8
import Placard.Toml.Cursor
import Placard.Toml.Number
import Placard.Toml.Quoted
import Placard.Toml.Reader
import Placard.Toml.Table
import Placard.Toml.Value
import Placard.Toml.Writer
import Placard.Unicode.Category
import Placard.Unicode.CharSet
import Placard.Unicode.Fold
import Placard.Unicode.Property
import Placard.Unicode.Script
import Placard.Unicode.Width
import Placard.Web.Domain
import Placard.Web.Host
import Placard.Web.Url
import Placard.Yaml.Plain
import Placard.Yaml.Scalar
import Placard.Yaml.Writer
import Placard.Proofs.Decimal.Rounding
import Placard.Proofs.Json.Floats
import Placard.Proofs.Command.Documents
import Placard.Proofs.Command.Unset
import Placard.Proofs.Command.Watched
import Placard.Proofs.Command.Flagged
import Placard.Proofs.Command.Chosen
