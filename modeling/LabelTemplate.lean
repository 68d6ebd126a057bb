import LabelTemplate.Adapters.Conversion
import LabelTemplate.Adapters.HostName.Composition
import LabelTemplate.Adapters.HostName.Direction
import LabelTemplate.Adapters.HostName.Joining
import LabelTemplate.Adapters.HostName.Label
import LabelTemplate.Adapters.HostName.Mark
import LabelTemplate.Adapters.HostName.Network
import LabelTemplate.Adapters.HostName.Permitted
import LabelTemplate.Adapters.HostName.Punycode
import LabelTemplate.Adapters.HostName.Script
import LabelTemplate.Adapters.JsonReader
import LabelTemplate.Adapters.Records
import LabelTemplate.Adapters.Settings
import LabelTemplate.Adapters.Web.Address
import LabelTemplate.Adapters.Web.Client
import LabelTemplate.Adapters.Web.Host
import LabelTemplate.Adapters.Web.NumericHost
import LabelTemplate.Adapters.Yaml.Document
import LabelTemplate.Adapters.Yaml.Moment
import LabelTemplate.Adapters.Yaml.Scalar
import LabelTemplate.Cleaning
import LabelTemplate.CodePage
import LabelTemplate.Command
import LabelTemplate.CommandLine.Edit
import LabelTemplate.CommandLine.Form
import LabelTemplate.CommandLine.Help
import LabelTemplate.CommandLine.Invocation
import LabelTemplate.CommandLine.Preparation
import LabelTemplate.CommandLine.Reading
import LabelTemplate.CommandLine.Run
import LabelTemplate.CommandLine.Surroundings
import LabelTemplate.CommandLine.UsageError
import LabelTemplate.CommandLine.Verdict
import LabelTemplate.CommandLine.Word
import LabelTemplate.Compilation
import LabelTemplate.Definitions
import LabelTemplate.Embedding
import LabelTemplate.Extraction
import LabelTemplate.Field.Basic
import LabelTemplate.Field.Kind
import LabelTemplate.Field.Listing
import LabelTemplate.Field.Order
import LabelTemplate.Field.Position
import LabelTemplate.Files.Path
import LabelTemplate.Files.Store
import LabelTemplate.Foreign
import LabelTemplate.Label
import LabelTemplate.Main
import LabelTemplate.Normalization
import LabelTemplate.Numeral.Binary64
import LabelTemplate.Numeral.Decimal
import LabelTemplate.Numeral.General
import LabelTemplate.Numeral.Integer
import LabelTemplate.Outcome
import LabelTemplate.Preview.Desk
import LabelTemplate.Preview.Document
import LabelTemplate.Preview.Scheduler
import LabelTemplate.Proofs.Adapters.Settings
import LabelTemplate.Proofs.Cleaning.Bare
import LabelTemplate.Proofs.Cleaning.FieldsKept
import LabelTemplate.Proofs.Cleaning.HidingFlags
import LabelTemplate.Proofs.Cleaning.Housekeeping
import LabelTemplate.Proofs.Cleaning.MarkedImages
import LabelTemplate.Proofs.Cleaning.MarkerPlaces
import LabelTemplate.Proofs.Cleaning.Markers
import LabelTemplate.Proofs.Cleaning.PrintedDigits
import LabelTemplate.Proofs.Cleaning.PrintedStatements
import LabelTemplate.Proofs.Cleaning.Printing
import LabelTemplate.Proofs.Cleaning.RepeatedMarkers
import LabelTemplate.Proofs.Cleaning.Repetition
import LabelTemplate.Proofs.Cleaning.RestoredStatements
import LabelTemplate.Proofs.Cleaning.Settled
import LabelTemplate.Proofs.Cleaning.Underscores
import LabelTemplate.Proofs.CommandLine.NumberedEdits
import LabelTemplate.Proofs.CommandLine.Options
import LabelTemplate.Proofs.CommandLine.Runs
import LabelTemplate.Proofs.CommandLine.Steps
import LabelTemplate.Proofs.CommandLine.TemplateKept
import LabelTemplate.Proofs.Compilation.Blocks
import LabelTemplate.Proofs.Compilation.Content
import LabelTemplate.Proofs.Compilation.NewNames
import LabelTemplate.Proofs.Definitions.Blocks
import LabelTemplate.Proofs.Definitions.Lookup
import LabelTemplate.Proofs.Definitions.Renaming
import LabelTemplate.Proofs.Definitions.Substitution
import LabelTemplate.Proofs.Embedding.Insertion
import LabelTemplate.Proofs.Embedding.Names
import LabelTemplate.Proofs.Extraction.Correspondence
import LabelTemplate.Proofs.Extraction.Eligible
import LabelTemplate.Proofs.Extraction.Separation
import LabelTemplate.Proofs.Extraction.Spans
import LabelTemplate.Proofs.Field.Order
import LabelTemplate.Proofs.Files.Places
import LabelTemplate.Proofs.Normalization.Fields
import LabelTemplate.Proofs.Normalization.Lines
import LabelTemplate.Proofs.Numeral.Integer
import LabelTemplate.Proofs.Preview.Debouncing
import LabelTemplate.Proofs.Preview.Fate
import LabelTemplate.Proofs.Preview.Latest
import LabelTemplate.Proofs.Preview.Requests
import LabelTemplate.Proofs.Preview.StoredNames
import LabelTemplate.Proofs.Preview.Storing
import LabelTemplate.Proofs.Preview.TakenBack
import LabelTemplate.Proofs.Printer.Lossless
import LabelTemplate.Proofs.Printer.Reading
import LabelTemplate.Proofs.Regeneration.BarCodePrinting
import LabelTemplate.Proofs.Regeneration.Binding
import LabelTemplate.Proofs.Regeneration.FreeMoves
import LabelTemplate.Proofs.Regeneration.MovedFields
import LabelTemplate.Proofs.Regeneration.OneMove
import LabelTemplate.Proofs.Regeneration.Presentation
import LabelTemplate.Proofs.Regeneration.Printing
import LabelTemplate.Proofs.Regeneration.Reload
import LabelTemplate.Proofs.Regeneration.Rescan
import LabelTemplate.Proofs.Regeneration.Splice
import LabelTemplate.Proofs.Scan.Pieces
import LabelTemplate.Proofs.Scan.Removal
import LabelTemplate.Proofs.Scan.Rewriting
import LabelTemplate.Proofs.Session.CalledGraphics
import LabelTemplate.Proofs.Session.Edits
import LabelTemplate.Proofs.Session.History
import LabelTemplate.Proofs.Session.Invariant
import LabelTemplate.Proofs.Session.Loading
import LabelTemplate.Proofs.Session.Outputs
import LabelTemplate.Proofs.Session.Steps
import LabelTemplate.Proofs.Settings.Documented
import LabelTemplate.Proofs.Settings.Environment
import LabelTemplate.Proofs.Settings.File
import LabelTemplate.Proofs.Settings.Precedence
import LabelTemplate.Proofs.Settings.Values
import LabelTemplate.Proofs.Statement.Closed
import LabelTemplate.Proofs.Statement.Coordinates
import LabelTemplate.Proofs.Statement.Enumeration
import LabelTemplate.Proofs.Statement.Grammar
import LabelTemplate.Proofs.Statement.Records
import LabelTemplate.Proofs.Statement.Replacement
import LabelTemplate.Proofs.Statement.Revision
import LabelTemplate.Proofs.Statement.Rewording
import LabelTemplate.Proofs.Success
import LabelTemplate.Proofs.Text.Escape
import LabelTemplate.Proofs.Text.Lines
import LabelTemplate.Proofs.Text.Occurrence
import LabelTemplate.Proofs.Text.Trim
import LabelTemplate.Regeneration
import LabelTemplate.Rendering.Service
import LabelTemplate.Session.Basic
import LabelTemplate.Session.Step
import LabelTemplate.Settings.Basic
import LabelTemplate.Settings.Node
import LabelTemplate.Settings.Sections
import LabelTemplate.Settings.Source
import LabelTemplate.Settings.Toolkit
import LabelTemplate.Statement.Basic
import LabelTemplate.Statement.Recognise
import LabelTemplate.Statement.Record
import LabelTemplate.Text.Basic
import LabelTemplate.Text.Blank
import LabelTemplate.Text.Cased
import LabelTemplate.Text.CharTable
import LabelTemplate.Text.Digit
import LabelTemplate.Text.Fold
import LabelTemplate.Text.Lower
import LabelTemplate.Text.Printable
import LabelTemplate.Text.Quoted
import LabelTemplate.Text.Scan
import LabelTemplate.Text.Upper
import LabelTemplate.Text.Utf8
import LabelTemplate.Value.Basic
import LabelTemplate.Value.Check
import LabelTemplate.Value.Json
import LabelTemplate.Warning
