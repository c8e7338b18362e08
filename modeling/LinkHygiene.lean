import LinkHygiene.Command.Arguments
import LinkHygiene.Command.Disk
import LinkHygiene.Command.Run
import LinkHygiene.Command.Setup
import LinkHygiene.Config
import LinkHygiene.Document.Datum
import LinkHygiene.Fetch.Client
import LinkHygiene.Fetch.Header
import LinkHygiene.Fetch.Probe
import LinkHygiene.Filter.Candidates
import LinkHygiene.Filter.Line
import LinkHygiene.Filter.ParamRules
import LinkHygiene.Filter.Strip
import LinkHygiene.Filter.TrackingRule
import LinkHygiene.Main
import LinkHygiene.Message.Clean
import LinkHygiene.Message.Compare
import LinkHygiene.Message.Links
import LinkHygiene.Message.Tasks
import LinkHygiene.Pattern.Basic
import LinkHygiene.Pattern.Bracket
import LinkHygiene.Pattern.CharSet
import LinkHygiene.Pattern.Flags
import LinkHygiene.Pattern.Parse
import LinkHygiene.Pattern.Property
import LinkHygiene.Pattern.Reader
import LinkHygiene.Pattern.Template
import LinkHygiene.Proofs.Fetch.LastResponse
import LinkHygiene.Proofs.Fetch.LocationBytes
import LinkHygiene.Proofs.Fetch.PageRead
import LinkHygiene.Proofs.Filter.Coverage
import LinkHygiene.Proofs.Filter.Keys
import LinkHygiene.Proofs.Filter.LineByLine
import LinkHygiene.Proofs.Filter.ListMeaning
import LinkHygiene.Proofs.Filter.Meaning
import LinkHygiene.Proofs.Filter.Sorting
import LinkHygiene.Proofs.Filter.Spelling
import LinkHygiene.Proofs.Filter.Strip
import LinkHygiene.Proofs.Filter.Usable
import LinkHygiene.Proofs.Filter.Verdict
import LinkHygiene.Proofs.Filter.Written
import LinkHygiene.Proofs.Message.Concurrent
import LinkHygiene.Proofs.Message.Extraction
import LinkHygiene.Proofs.Message.InPlace
import LinkHygiene.Proofs.Message.Order
import LinkHygiene.Proofs.Message.Restorable
import LinkHygiene.Proofs.Message.Scanner
import LinkHygiene.Proofs.Message.Tasks
import LinkHygiene.Proofs.Message.Toggle
import LinkHygiene.Proofs.Pattern.Capture
import LinkHygiene.Proofs.Pattern.Walk
import LinkHygiene.Proofs.Resolve.Depth
import LinkHygiene.Proofs.Resolve.Discipline
import LinkHygiene.Proofs.Resolve.Embedded
import LinkHygiene.Proofs.Resolve.Failure
import LinkHygiene.Proofs.Resolve.Hygiene
import LinkHygiene.Proofs.Resolve.Idempotence
import LinkHygiene.Proofs.Resolve.Plan
import LinkHygiene.Proofs.Resolve.Rest
import LinkHygiene.Proofs.Results
import LinkHygiene.Proofs.Rule.Extension
import LinkHygiene.Proofs.Rule.Matching
import LinkHygiene.Proofs.Rule.Policies
import LinkHygiene.Proofs.Rule.Rewritten
import LinkHygiene.Proofs.Rule.Settled
import LinkHygiene.Proofs.Rule.Targets
import LinkHygiene.Proofs.Store.Address
import LinkHygiene.Proofs.Store.History
import LinkHygiene.Proofs.Store.Replacement
import LinkHygiene.Proofs.Store.Statements
import LinkHygiene.Proofs.Text.Lowercase
import LinkHygiene.Proofs.Text.Occurrence
import LinkHygiene.Proofs.Text.Split
import LinkHygiene.Proofs.Text.Trim
import LinkHygiene.Proofs.Text.Utf8
import LinkHygiene.Proofs.Text.Utf8Front
import LinkHygiene.Proofs.Text.Utf8Lossy
import LinkHygiene.Proofs.Text.Utf8Order
import LinkHygiene.Proofs.Text.Utf8Stream
import LinkHygiene.Proofs.Text.Utf8Valid
import LinkHygiene.Proofs.Url.Authority
import LinkHygiene.Proofs.Url.Form
import LinkHygiene.Proofs.Url.Location
import LinkHygiene.Proofs.Url.Path
import LinkHygiene.Proofs.Url.Percent
import LinkHygiene.Proofs.Url.Query
import LinkHygiene.Proofs.Url.Reading
import LinkHygiene.Proofs.Url.Rebuilding
import LinkHygiene.Proofs.Url.Rereading
import LinkHygiene.Proofs.Url.Shape
import LinkHygiene.Resolve.Basic
import LinkHygiene.Resolve.Network
import LinkHygiene.Rule.Apply
import LinkHygiene.Rule.Basic
import LinkHygiene.Rule.Compile
import LinkHygiene.Rule.File
import LinkHygiene.Rule.Registry
import LinkHygiene.Rule.Shipped
import LinkHygiene.Rule.Spec
import LinkHygiene.Store.Basic
import LinkHygiene.Store.Location
import LinkHygiene.Store.Refresh
import LinkHygiene.Store.Row
import LinkHygiene.Store.Snapshot
import LinkHygiene.Text.Blank
import LinkHygiene.Text.Composed
import LinkHygiene.Text.Lines
import LinkHygiene.Text.Lowercase
import LinkHygiene.Text.Quoted
import LinkHygiene.Text.Split
import LinkHygiene.Text.Utf8
import LinkHygiene.Text.Utf8Stream
import LinkHygiene.Toml.Lexical
import LinkHygiene.Toml.Number
import LinkHygiene.Toml.Parse
import LinkHygiene.Toml.Tree
import LinkHygiene.Unicode.CaseTable
import LinkHygiene.Unicode.Category
import LinkHygiene.Unicode.Decomposition
import LinkHygiene.Unicode.Direction
import LinkHygiene.Unicode.Folding
import LinkHygiene.Unicode.HostMapping
import LinkHygiene.Unicode.Joining
import LinkHygiene.Unicode.Property
import LinkHygiene.Unicode.Script
import LinkHygiene.Unicode.Table
import LinkHygiene.Url.Address
import LinkHygiene.Url.Basic
import LinkHygiene.Url.Domain
import LinkHygiene.Url.Edit
import LinkHygiene.Url.Form
import LinkHygiene.Url.Host
import LinkHygiene.Url.Parse
import LinkHygiene.Url.Percent
import LinkHygiene.Url.Punycode
