import Phrasebook.Catalog.Diff
import Phrasebook.Catalog.Key
import Phrasebook.Catalog.Resolve
import Phrasebook.Catalog.Resources
import Phrasebook.Catalog.Store
import Phrasebook.Decimal.Binary
import Phrasebook.Decimal.Layout
import Phrasebook.Decimal.Read
import Phrasebook.Decimal.Shortest
import Phrasebook.Digest.Sha256
import Phrasebook.Error.App
import Phrasebook.Error.Io
import Phrasebook.Error.Translation
import Phrasebook.Files.Tree
import Phrasebook.Format.Date
import Phrasebook.Format.Number
import Phrasebook.Json.Read
import Phrasebook.Json.Typed
import Phrasebook.Json.Value
import Phrasebook.Json.Write
import Phrasebook.Locale.Basic
import Phrasebook.Locale.LanguageId
import Phrasebook.Logging.Config
import Phrasebook.Markup.Interpolate
import Phrasebook.Markup.Rendered
import Phrasebook.Markup.Substitute
import Phrasebook.Message.Error
import Phrasebook.Message.Eval
import Phrasebook.Message.Parse
import Phrasebook.Message.Sniff
import Phrasebook.Message.Syntax
import Phrasebook.Plural.Data
import Phrasebook.Plural.Operands
import Phrasebook.Plural.Rule
import Phrasebook.Plural.Select
import Phrasebook.Proofs.Catalog.Diff
import Phrasebook.Proofs.Catalog.FlatStore
import Phrasebook.Proofs.Catalog.KeyShape
import Phrasebook.Proofs.Catalog.Loading
import Phrasebook.Proofs.Catalog.Merge
import Phrasebook.Proofs.Catalog.Refinement
import Phrasebook.Proofs.Catalog.Resolution
import Phrasebook.Proofs.Catalog.ResourceFiles
import Phrasebook.Proofs.Decimal.Bits
import Phrasebook.Proofs.Decimal.Magnitude
import Phrasebook.Proofs.Decimal.Rounding
import Phrasebook.Proofs.Decimal.Text
import Phrasebook.Proofs.Format.Numeral
import Phrasebook.Proofs.Locale.Normal
import Phrasebook.Proofs.Markup.SinglePass
import Phrasebook.Proofs.Markup.TagPass
import Phrasebook.Proofs.Message.Evaluation
import Phrasebook.Proofs.Message.Positions
import Phrasebook.Proofs.Message.Print
import Phrasebook.Proofs.Message.Reads
import Phrasebook.Proofs.Message.RoundTrip
import Phrasebook.Proofs.Message.Semantics
import Phrasebook.Proofs.Message.Sniff
import Phrasebook.Proofs.Message.WellFormed
import Phrasebook.Proofs.Session.Contract
import Phrasebook.Proofs.Session.Echo
import Phrasebook.Proofs.Session.Lifecycle
import Phrasebook.Proofs.Session.Scopes
import Phrasebook.Proofs.Session.Setup
import Phrasebook.Proofs.Table.Lookup
import Phrasebook.Session.Config
import Phrasebook.Session.Global
import Phrasebook.Session.Provider
import Phrasebook.Session.Setup
import Phrasebook.Session.State
import Phrasebook.Settings.Basic
import Phrasebook.Settings.Filter
import Phrasebook.Settings.Load
import Phrasebook.Settings.Pattern
import Phrasebook.Table.Basic
import Phrasebook.Text.Alphabetic
import Phrasebook.Text.Blank
import Phrasebook.Text.Printable
import Phrasebook.Text.Quoted
import Phrasebook.Text.Ranges
import Phrasebook.Text.Upper
import Phrasebook.Text.Word
import Phrasebook.Time.Civil
import Phrasebook.Time.Instant
import Phrasebook.Time.Pattern
import Phrasebook.Time.Rfc3339
import Phrasebook.Toml.Cursor
import Phrasebook.Toml.Lexeme
import Phrasebook.Toml.Number
import Phrasebook.Toml.Parse
import Phrasebook.Toml.Report
import Phrasebook.Toml.Tree
import Phrasebook.Value.Part
import Phrasebook.Value.Scalar
import Phrasebook.Value.Values
