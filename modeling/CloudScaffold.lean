import CloudScaffold.Assistant.Client
import CloudScaffold.Assistant.Prompt
import CloudScaffold.Assistant.Reply
import CloudScaffold.Catalog.Aws
import CloudScaffold.Catalog.Azure
import CloudScaffold.Catalog.Basic
import CloudScaffold.Catalog.Gcp
import CloudScaffold.Catalog.Listing
import CloudScaffold.Catalog.Pattern
import CloudScaffold.Catalog.Schema
import CloudScaffold.Catalog.Validation
import CloudScaffold.Catalog.View
import CloudScaffold.Command.Folder
import CloudScaffold.Command.Options
import CloudScaffold.Command.Run
import CloudScaffold.Command.Session
import CloudScaffold.Command.Values
import CloudScaffold.Contract.Basic
import CloudScaffold.Contract.Document
import CloudScaffold.Generation
import CloudScaffold.Graph.Basic
import CloudScaffold.Graph.Build
import CloudScaffold.Graph.Check
import CloudScaffold.Hcl.Document
import CloudScaffold.Hcl.Files
import CloudScaffold.Hcl.Layout
import CloudScaffold.Hcl.Quoted
import CloudScaffold.Hcl.Render
import CloudScaffold.Main
import CloudScaffold.Number.Binary64
import CloudScaffold.Number.Numeral
import CloudScaffold.Number.Shortest
import CloudScaffold.Proofs.Graph.Faults
import CloudScaffold.Proofs.Graph.Order
import CloudScaffold.Proofs.Graph.Soundness
import CloudScaffold.Proofs.Number.Numeral
import CloudScaffold.Proofs.Template.Evaluation
import CloudScaffold.Proofs.Template.Sketch
import CloudScaffold.Provision.Directory
import CloudScaffold.Provision.History
import CloudScaffold.Provision.Report
import CloudScaffold.Provision.Runner
import CloudScaffold.Provision.Stage
import CloudScaffold.Provision.World
import CloudScaffold.Server.Address
import CloudScaffold.Server.Body
import CloudScaffold.Server.Handle
import CloudScaffold.Server.Launch
import CloudScaffold.Server.Route
import CloudScaffold.Settings
import CloudScaffold.Template.Aws
import CloudScaffold.Template.Azure
import CloudScaffold.Template.Draft
import CloudScaffold.Template.Gcp
import CloudScaffold.Template.Registry
import CloudScaffold.Template.Run
import CloudScaffold.Template.Term
import CloudScaffold.Text.Base
import CloudScaffold.Text.Blank
import CloudScaffold.Text.Case
import CloudScaffold.Text.Case.Table
import CloudScaffold.Text.CharSet
import CloudScaffold.Text.Digit
import CloudScaffold.Text.Literal
import CloudScaffold.Text.Literal.Table
import CloudScaffold.Text.Parts
import CloudScaffold.Text.Points
import CloudScaffold.Text.Slug
import CloudScaffold.Text.Utf8
import CloudScaffold.Text.Word
import CloudScaffold.Text.Word.Table
import CloudScaffold.Value.Basic
import CloudScaffold.Value.Json
import CloudScaffold.Value.Text
import CloudScaffold.Yaml.Atom
import CloudScaffold.Yaml.Binary
import CloudScaffold.Yaml.Cursor
import CloudScaffold.Yaml.Date
import CloudScaffold.Yaml.Datum
import CloudScaffold.Yaml.Document
import CloudScaffold.Yaml.Fault
import CloudScaffold.Yaml.Members
import CloudScaffold.Yaml.Merge
import CloudScaffold.Yaml.Node
import CloudScaffold.Yaml.Scalar
import CloudScaffold.Yaml.Stream
import CloudScaffold.Yaml.Tag
import CloudScaffold.Yaml.Token
import CloudScaffold.Yaml.Write
import CloudScaffold.Proofs.Template.SketchRun
import CloudScaffold.Proofs.Template.SketchGraph
import CloudScaffold.Proofs.Catalog.Accepted
import CloudScaffold.Proofs.Catalog.Built
import CloudScaffold.Proofs.Hcl.Marked
import CloudScaffold.Proofs.Hcl.MarkedRender
import CloudScaffold.Proofs.Hcl.Written
import CloudScaffold.Proofs.Hcl.Quoted
import CloudScaffold.Proofs.Template.Masked
import CloudScaffold.Proofs.Catalog.Discreet
import CloudScaffold.Proofs.Hcl.Redacted
import CloudScaffold.Proofs.Generation.Secrets
import CloudScaffold.Proofs.Provision.Perform
import CloudScaffold.Proofs.Provision.Exclusion
import CloudScaffold.Proofs.Provision.Course
import CloudScaffold.Proofs.Generation.Fallback
import CloudScaffold.Proofs.Hcl.Writable
import CloudScaffold.Proofs.Catalog.Writable
import CloudScaffold.Proofs.Generation.Total
import CloudScaffold.Proofs.Server.Generate
import CloudScaffold.Proofs.Hcl.Listed
import CloudScaffold.Proofs.Hcl.Lossless
import CloudScaffold.Proofs.Hcl.Skeleton
import CloudScaffold.Proofs.Catalog.Dependencies
import CloudScaffold.Proofs.Template.Reading
import CloudScaffold.Proofs.Template.Record
import CloudScaffold.Proofs.Catalog.Recorded
import CloudScaffold.Proofs.Catalog.Choices
import CloudScaffold.Proofs.Template.Recast
import CloudScaffold.Proofs.Catalog.Recast
import CloudScaffold.Proofs.Catalog.Revealing
import CloudScaffold.Proofs.Catalog.Faithful
import CloudScaffold.Proofs.Catalog.Fieldwise
import CloudScaffold.Proofs.Catalog.Stable
import CloudScaffold.Proofs.Assistant.Pieces
import CloudScaffold.Proofs.Assistant.Format
import CloudScaffold.Proofs.Assistant.Names
import CloudScaffold.Proofs.Provision.Directory
import CloudScaffold.Proofs.Generation.Files
import CloudScaffold.Proofs.Provision.Isolation
import CloudScaffold.Proofs.Provision.Retries
import CloudScaffold.Proofs.Provision.Refusal
import CloudScaffold.Proofs.Catalog.Typed
import CloudScaffold.Proofs.Assistant.Cuts
import CloudScaffold.Proofs.Assistant.Matches
import CloudScaffold.Proofs.Assistant.Lossless
import CloudScaffold.Proofs.Assistant.Headings
import CloudScaffold.Proofs.Hcl.Interpolation
import CloudScaffold.Proofs.Hcl.Keys
import CloudScaffold.Proofs.Server.Provisioning
import CloudScaffold.Proofs.Number.DigitSign
import CloudScaffold.Proofs.Command.Choosing
import CloudScaffold.Proofs.Command.Missing
import CloudScaffold.Proofs.Template.Usage
import CloudScaffold.Proofs.Template.Declaration
import CloudScaffold.Proofs.Number.Written
import CloudScaffold.Proofs.Number.Fraction
import CloudScaffold.Proofs.Yaml.Words
import CloudScaffold.Proofs.Yaml.Line
import CloudScaffold.Proofs.Yaml.Saying
import CloudScaffold.Proofs.Yaml.Numbers
import CloudScaffold.Proofs.Yaml.Spelling
import CloudScaffold.Proofs.Command.Spelled
import CloudScaffold.Proofs.Text.Lower
import CloudScaffold.Proofs.Text.Slug
import CloudScaffold.Proofs.Template.Naming
import CloudScaffold.Proofs.Value.Json
import CloudScaffold.Proofs.Assistant.Prompt
import CloudScaffold.Proofs.Hcl.Layout
import CloudScaffold.Proofs.Template.Changes
import CloudScaffold.Proofs.Template.Hyphenated
import CloudScaffold.Proofs.Catalog.DisplayName
import CloudScaffold.Proofs.Catalog.DerivedNames
import CloudScaffold.Proofs.Catalog.AccountName
