import Dashwright.Console.Echo
import Dashwright.Failure
import Dashwright.Jobs.Message
import Dashwright.Jobs.Tracker
import Dashwright.Json.Lenient
import Dashwright.Json.Reader
import Dashwright.Number.Fixed
import Dashwright.Number.Nearest
import Dashwright.Number.Shortest
import Dashwright.Number.Text
import Dashwright.Project.Defaults
import Dashwright.Project.Discover
import Dashwright.Project.Environment
import Dashwright.Project.Functions
import Dashwright.Project.Load
import Dashwright.Project.Merge
import Dashwright.Project.PathName
import Dashwright.Project.Profile
import Dashwright.Project.Report
import Dashwright.Project.Shipped
import Dashwright.Project.Workspace
import Dashwright.Proofs.Jobs.Answers
import Dashwright.Proofs.Jobs.Capacity
import Dashwright.Proofs.Jobs.Partition
import Dashwright.Proofs.Jobs.Runs
import Dashwright.Proofs.Loops
import Dashwright.Proofs.Project.Collections
import Dashwright.Proofs.Query.Layout
import Dashwright.Proofs.Value.Texts
import Dashwright.Proofs.Yaml.Frame
import Dashwright.Query.Aggregate
import Dashwright.Query.Call
import Dashwright.Query.Dialect
import Dashwright.Query.Frame
import Dashwright.Query.Moments
import Dashwright.Query.Render
import Dashwright.Query.Statement
import Dashwright.Query.Table
import Dashwright.Query.Tokenizer
import Dashwright.Query.Writer
import Dashwright.Reference.Markdown
import Dashwright.Reference.Nav
import Dashwright.Reference.Packing
import Dashwright.Reference.Schema
import Dashwright.Reference.SchemaData
import Dashwright.Signature
import Dashwright.Template.Access
import Dashwright.Template.Check
import Dashwright.Template.Fields
import Dashwright.Template.Filters
import Dashwright.Template.Fold
import Dashwright.Template.Lexer
import Dashwright.Template.Methods
import Dashwright.Template.Operators
import Dashwright.Template.Parser
import Dashwright.Template.Pretty
import Dashwright.Template.Render
import Dashwright.Template.Scan
import Dashwright.Template.Slot
import Dashwright.Template.Syntax
import Dashwright.Template.Term
import Dashwright.Testing.Run
import Dashwright.Text.Blank
import Dashwright.Text.Case
import Dashwright.Text.Entities
import Dashwright.Text.Links
import Dashwright.Text.Markup
import Dashwright.Text.Names
import Dashwright.Text.Packed
import Dashwright.Text.Unicode
import Dashwright.Text.Unicode.Tables
import Dashwright.Text.Wrap
import Dashwright.Time.Civil
import Dashwright.Time.Duration
import Dashwright.Time.Iso
import Dashwright.Time.Lenient
import Dashwright.Time.Reading
import Dashwright.Time.Stamp
import Dashwright.Value.Access
import Dashwright.Value.Arith
import Dashwright.Value.Basic
import Dashwright.Value.Convert
import Dashwright.Value.Percent
import Dashwright.Value.Sort
import Dashwright.Value.Spec
import Dashwright.Value.Text
import Dashwright.Yaml.Construct
import Dashwright.Yaml.Dump
import Dashwright.Yaml.Event
import Dashwright.Yaml.Graph
import Dashwright.Yaml.Load
import Dashwright.Yaml.Mark
import Dashwright.Yaml.Node
import Dashwright.Yaml.Resolve
import Dashwright.Yaml.Scanner
import Dashwright.Yaml.Token
import Dashwright.Proofs.Text.Split
import Dashwright.Proofs.Query.Grouping
import Dashwright.Proofs.Project.Includes
import Dashwright.Proofs.Project.Quoting
import Dashwright.Proofs.Project.Assembly
import Dashwright.Proofs.Query.Walk
import Dashwright.Proofs.Query.Filters
import Dashwright.Proofs.Yaml.Locations
import Dashwright.Proofs.Yaml.Placing
import Dashwright.Proofs.Query.Kinds
import Dashwright.Proofs.Query.Cohort
import Dashwright.Proofs.Query.Select
import Dashwright.Proofs.Query.Checks
import Dashwright.Proofs.Query.QueryFile
import Dashwright.Proofs.Value.Sorting
import Dashwright.Proofs.Reference.Unfolding
import Dashwright.Proofs.Reference.Pruning
import Dashwright.Proofs.Project.Reporting
import Dashwright.Proofs.Template.PlainText
import Dashwright.Proofs.Query.Aggregation
import Dashwright.Proofs.Reference.Shallowest
import Dashwright.Proofs.Time.Tokens
import Dashwright.Proofs.Time.Calendar
import Dashwright.Proofs.Time.Stamps
import Dashwright.Proofs.Time.RoundTrip
import Dashwright.Proofs.Reference.KeyPath
import Dashwright.Proofs.Query.Arguments
