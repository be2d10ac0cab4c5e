import Conch.Builtin.Cat
import Conch.Builtin.Diagnostics
import Conch.Builtin.Directory
import Conch.Builtin.Fetch
import Conch.Builtin.Filters
import Conch.Builtin.Input
import Conch.Builtin.JobControl
import Conch.Builtin.Listing
import Conch.Builtin.Reference
import Conch.Builtin.Standard
import Conch.Command.Flight
import Conch.Command.Pipeline
import Conch.Command.Registry
import Conch.Config.Basic
import Conch.Config.Expansion
import Conch.Config.Overlay
import Conch.Fault
import Conch.Files.OsError
import Conch.Files.Source
import Conch.Files.Store
import Conch.Files.Writing
import Conch.Host.Facts
import Conch.Host.System
import Conch.Job.Record
import Conch.Job.Table
import Conch.Json.Cursor
import Conch.Json.Reader
import Conch.Json.Value
import Conch.Limits
import Conch.Line.Quoting
import Conch.Line.Reading
import Conch.Line.Stage
import Conch.Line.Token
import Conch.Log
import Conch.Machine
import Conch.Main
import Conch.Number.Binary64
import Conch.Number.Decimal
import Conch.Outcome
import Conch.Path.Basic
import Conch.Path.Guard
import Conch.Pattern.Anchor
import Conch.Pattern.Bracket
import Conch.Pattern.Classes
import Conch.Pattern.Escape
import Conch.Pattern.Expr
import Conch.Pattern.Group
import Conch.Pattern.Matching
import Conch.Pattern.Meaning
import Conch.Pattern.Mistake
import Conch.Pattern.Node
import Conch.Pattern.Octets
import Conch.Pattern.Place
import Conch.Pattern.Reading
import Conch.Pattern.Repetition
import Conch.Pattern.Search
import Conch.Pattern.Tally
import Conch.Pattern.Weight
import Conch.Permission
import Conch.Program.Invocation
import Conch.Proofs.Builtin.Handlers
import Conch.Proofs.Builtin.Outcomes
import Conch.Proofs.Command.Lookup
import Conch.Proofs.Job.Flags
import Conch.Proofs.Job.Lifecycle
import Conch.Proofs.Job.Slots
import Conch.Proofs.Line.Background
import Conch.Proofs.Line.Grammar
import Conch.Proofs.Pipeline.Alone
import Conch.Proofs.Pipeline.Cancellation
import Conch.Proofs.Pipeline.Composition
import Conch.Proofs.Pipeline.Course
import Conch.Proofs.Pipeline.Flight
import Conch.Proofs.Pipeline.Fold
import Conch.Proofs.Pipeline.Local
import Conch.Proofs.Pipeline.Privilege
import Conch.Proofs.Pipeline.Stage
import Conch.Proofs.Session.Background
import Conch.Proofs.Session.Orderly
import Conch.Proofs.Session.Outcomes
import Conch.Proofs.Session.Past
import Conch.Proofs.Session.Privilege
import Conch.Proofs.Session.Race
import Conch.Proofs.Session.Workers
import Conch.Proofs.Text.Blank
import Conch.Request.Answer
import Conch.Request.Payload
import Conch.Request.Reading
import Conch.Session.Basic
import Conch.Session.Opening
import Conch.Session.Settling
import Conch.Session.Traffic
import Conch.Text.Ascii
import Conch.Text.Blank
import Conch.Text.Lines
import Conch.Text.Literal
import Conch.Text.Lowercase
import Conch.Text.Order
import Conch.Text.Pieces
import Conch.Text.Utf8
import Conch.Toml.Quoted
import Conch.Toml.Reading
import Conch.Toml.Scalar
import Conch.Toml.Table
import Conch.Unicode.Ages
import Conch.Unicode.Breaks
import Conch.Unicode.Casing
import Conch.Unicode.Categories
import Conch.Unicode.Charset
import Conch.Unicode.Classes
import Conch.Unicode.Composites
import Conch.Unicode.Composition
import Conch.Unicode.Direction
import Conch.Unicode.Edition
import Conch.Unicode.Joining
import Conch.Unicode.NameMapping
import Conch.Unicode.Names
import Conch.Unicode.Properties
import Conch.Unicode.Ranges
import Conch.Unicode.ScriptExtensions
import Conch.Unicode.Scripts
import Conch.Url.Direction
import Conch.Url.Host
import Conch.Url.Label
import Conch.Url.Mapping
import Conch.Url.Percent
import Conch.Url.Punycode
import Conch.Url.Reading
import Conch.Proofs.Session.Cancellation
import Conch.Proofs.Line.Quoting
import Conch.Proofs.Line.Rendering
import Conch.Proofs.Job.Pruning
import Conch.Proofs.Job.Retention
import Conch.Proofs.Session.Invocations
import Conch.Proofs.Session.Directory
import Conch.Proofs.Path.Rooted
import Conch.Proofs.Files.Requests
import Conch.Proofs.Builtin.Requests
import Conch.Proofs.Session.Discipline
import Conch.Proofs.Files.Edits
import Conch.Proofs.Pipeline.Writing
import Conch.Proofs.Session.Frame
import Conch.Proofs.Json.Rendering
import Conch.Proofs.Program.Serving
import Conch.Proofs.Path.Folding
import Conch.Proofs.Files.Spelling
import Conch.Proofs.Session.Whereabouts
import Conch.Proofs.Session.Reentry
import Conch.Proofs.Text.Lines
import Conch.Proofs.Builtin.Filters
import Conch.Proofs.Files.Delivery
import Conch.Proofs.Builtin.Readers
import Conch.Proofs.Session.Foreground
import Conch.Proofs.Session.Feeding
import Conch.Proofs.Session.Failures
import Conch.Proofs.Pipeline.ErrorTexts
import Conch.Proofs.Line.Cutting
import Conch.Proofs.Line.Places
import Conch.Proofs.Line.Piping
import Conch.Proofs.Session.Straying
import Conch.Proofs.Path.Route
import Conch.Proofs.Session.Descent
import Conch.Proofs.Line.Label
import Conch.Proofs.Line.Unclosed
import Conch.Proofs.Job.Acceptance
import Conch.Proofs.Text.Order
import Conch.Proofs.Builtin.Sorting
import Conch.Proofs.Builtin.JobControl
import Conch.Proofs.Builtin.JobRows
import Conch.Proofs.Session.Listing
import Conch.Proofs.Builtin.Occurrences
import Conch.Proofs.Text.Ascii
import Conch.Proofs.Command.Registration
import Conch.Proofs.Pipeline.Spelling
import Conch.Proofs.Text.Utf8
import Conch.Proofs.Files.Streams
import Conch.Proofs.Files.Capped
import Conch.Proofs.Files.Links
import Conch.Proofs.Builtin.Rows
import Conch.Proofs.Path.Canonical
import Conch.Proofs.Text.Pieces
import Conch.Proofs.Url.Scheme
import Conch.Proofs.Builtin.Fetching
import Conch.Proofs.Path.Guard
import Conch.Proofs.Path.Shown
import Conch.Proofs.Text.Lossy
