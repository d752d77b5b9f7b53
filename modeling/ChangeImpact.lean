import ChangeImpact.Change.Basic
import ChangeImpact.Change.Entity
import ChangeImpact.Change.Keyword
import ChangeImpact.Change.Operation
import ChangeImpact.Change.Parsed
import ChangeImpact.Checklist.Basic
import ChangeImpact.Checklist.Generation
import ChangeImpact.Checklist.Sections
import ChangeImpact.CommandLine.Analysis
import ChangeImpact.CommandLine.Command
import ChangeImpact.CommandLine.Event
import ChangeImpact.CommandLine.Input
import ChangeImpact.CommandLine.Projects
import ChangeImpact.CommandLine.References
import ChangeImpact.CommandLine.ReportView
import ChangeImpact.CommandLine.Run
import ChangeImpact.CommandLine.Settings
import ChangeImpact.CommandLine.Signature
import ChangeImpact.Decimal.Binary64
import ChangeImpact.Decimal.Extended
import ChangeImpact.Decimal.Numeral
import ChangeImpact.Decimal.Reading
import ChangeImpact.Decimal.Rounding
import ChangeImpact.Decimal.Shortest
import ChangeImpact.Diagram.Dot
import ChangeImpact.Diagram.Mermaid
import ChangeImpact.Fault
import ChangeImpact.Flow.Basic
import ChangeImpact.Flow.Criticality
import ChangeImpact.Flow.Graph
import ChangeImpact.Flow.Impact
import ChangeImpact.Flow.Statistics
import ChangeImpact.Glob
import ChangeImpact.Home.Configuration
import ChangeImpact.Home.FileTree
import ChangeImpact.Home.Memory
import ChangeImpact.Home.Project
import ChangeImpact.Home.Workspace
import ChangeImpact.Json.Basic
import ChangeImpact.Json.Display
import ChangeImpact.Json.Reader
import ChangeImpact.Json.Writer
import ChangeImpact.Knowledge.Basic
import ChangeImpact.Knowledge.Document
import ChangeImpact.Main
import ChangeImpact.Mention
import ChangeImpact.ModuleName
import ChangeImpact.PathName
import ChangeImpact.Proofs.Change.Clauses
import ChangeImpact.Proofs.Change.Instructions
import ChangeImpact.Proofs.Change.Reading
import ChangeImpact.Proofs.Checked
import ChangeImpact.Proofs.Checklist.Groups
import ChangeImpact.Proofs.Checklist.Merging
import ChangeImpact.Proofs.Checklist.ModuleTests
import ChangeImpact.Proofs.Checklist.Representation
import ChangeImpact.Proofs.Decimal.Digits
import ChangeImpact.Proofs.Decimal.Powers
import ChangeImpact.Proofs.Decimal.Reading
import ChangeImpact.Proofs.Decimal.Rounding
import ChangeImpact.Proofs.Decimal.Shortest
import ChangeImpact.Proofs.Diagram.Dot
import ChangeImpact.Proofs.Diagram.Flowchart
import ChangeImpact.Proofs.Diagram.Quoting
import ChangeImpact.Proofs.Distinct
import ChangeImpact.Proofs.Flow.Criticality
import ChangeImpact.Proofs.Flow.Graph
import ChangeImpact.Proofs.Flow.Records
import ChangeImpact.Proofs.Home.ActiveProject
import ChangeImpact.Proofs.Home.Configuration
import ChangeImpact.Proofs.Home.Deleting
import ChangeImpact.Proofs.Home.FileTree
import ChangeImpact.Proofs.Home.Projects
import ChangeImpact.Proofs.Home.Sessions
import ChangeImpact.Proofs.Home.Stores
import ChangeImpact.Proofs.Home.Tidy
import ChangeImpact.Proofs.Json.Fields
import ChangeImpact.Proofs.Json.Floats
import ChangeImpact.Proofs.Json.Limits
import ChangeImpact.Proofs.Json.Lines
import ChangeImpact.Proofs.Json.Names
import ChangeImpact.Proofs.Json.Numbers
import ChangeImpact.Proofs.Json.Texts
import ChangeImpact.Proofs.Knowledge.Entries
import ChangeImpact.Proofs.Knowledge.Graph
import ChangeImpact.Proofs.Knowledge.Growth
import ChangeImpact.Proofs.Knowledge.Imports
import ChangeImpact.Proofs.Knowledge.Loading
import ChangeImpact.Proofs.Knowledge.Ownership
import ChangeImpact.Proofs.Mention
import ChangeImpact.Proofs.ModuleName
import ChangeImpact.Proofs.Record
import ChangeImpact.Proofs.Reference.Batches
import ChangeImpact.Proofs.Reference.Changes
import ChangeImpact.Proofs.Reference.Creating
import ChangeImpact.Proofs.Reference.Filters
import ChangeImpact.Proofs.Reference.History
import ChangeImpact.Proofs.Reference.Insertion
import ChangeImpact.Proofs.Reference.Linking
import ChangeImpact.Proofs.Reference.Mentions
import ChangeImpact.Proofs.Reference.Nearness
import ChangeImpact.Proofs.Reference.Operations
import ChangeImpact.Proofs.Reference.Order
import ChangeImpact.Proofs.Reference.Pages
import ChangeImpact.Proofs.Reference.Recall
import ChangeImpact.Proofs.Reference.Related
import ChangeImpact.Proofs.Reference.Requests
import ChangeImpact.Proofs.Reference.Rows
import ChangeImpact.Proofs.Reference.Runs
import ChangeImpact.Proofs.Reference.Soundness
import ChangeImpact.Proofs.Report.Catalog
import ChangeImpact.Proofs.Report.Consistency
import ChangeImpact.Proofs.Report.Growth
import ChangeImpact.Proofs.Report.Knowledge
import ChangeImpact.Proofs.Report.Widening
import ChangeImpact.Proofs.Risk.Assessing
import ChangeImpact.Proofs.Risk.Assessor
import ChangeImpact.Proofs.Scope.Depths
import ChangeImpact.Proofs.Scope.Entities
import ChangeImpact.Proofs.Scope.Files
import ChangeImpact.Proofs.Scope.Growth
import ChangeImpact.Proofs.Scope.Knowledge
import ChangeImpact.Proofs.Scope.Layers
import ChangeImpact.Proofs.Scope.Modules
import ChangeImpact.Proofs.Scope.Spellings
import ChangeImpact.Proofs.Scope.Trails
import ChangeImpact.Proofs.Settings.Sections
import ChangeImpact.Proofs.Text.Runs
import ChangeImpact.Proofs.Text.Scan
import ChangeImpact.Proofs.Text.Search
import ChangeImpact.Proofs.Text.Trimming
import ChangeImpact.Proofs.Toml.Agreement
import ChangeImpact.Proofs.Toml.Tables
import ChangeImpact.Proofs.Traversal.Distance
import ChangeImpact.Record
import ChangeImpact.Reference.Basic
import ChangeImpact.Reference.Cell
import ChangeImpact.Reference.Document
import ChangeImpact.Reference.Linking
import ChangeImpact.Reference.Query
import ChangeImpact.Reference.Related
import ChangeImpact.Reference.Store
import ChangeImpact.Report
import ChangeImpact.Risk.Assessor
import ChangeImpact.Risk.Basic
import ChangeImpact.Risk.BuiltIn
import ChangeImpact.Risk.Rule
import ChangeImpact.Scope.Basic
import ChangeImpact.Scope.Detection
import ChangeImpact.Scope.Expansion
import ChangeImpact.Settings.Analysis
import ChangeImpact.Settings.Section
import ChangeImpact.Text.Blank
import ChangeImpact.Text.Case
import ChangeImpact.Text.CaseTable
import ChangeImpact.Text.Folded
import ChangeImpact.Text.Lines
import ChangeImpact.Text.Markup
import ChangeImpact.Text.PrintableTable
import ChangeImpact.Text.Quoted
import ChangeImpact.Text.Scan
import ChangeImpact.Text.Search
import ChangeImpact.Text.Similarity
import ChangeImpact.Text.Word
import ChangeImpact.Text.WordTable
import ChangeImpact.Toml.Entry
import ChangeImpact.Toml.Escape
import ChangeImpact.Toml.Layout
import ChangeImpact.Toml.Moment
import ChangeImpact.Toml.Reader
import ChangeImpact.Toml.Value
import ChangeImpact.Toml.Writer
import ChangeImpact.Traversal
import ChangeImpact.Vocabulary
