import Scaffold.Artifact.Basic
import Scaffold.Artifact.Preview
import Scaffold.CommandLine.Help
import Scaffold.CommandLine.Parse
import Scaffold.CommandLine.Program
import Scaffold.CommandLine.Word
import Scaffold.Composition.Declaration
import Scaffold.Composition.Document
import Scaffold.Composition.Import
import Scaffold.Composition.Register
import Scaffold.Console.Layout
import Scaffold.Console.Markup
import Scaffold.Console.Report
import Scaffold.Console.Table
import Scaffold.Disk.Basic
import Scaffold.Disk.Changes
import Scaffold.Disk.Fault
import Scaffold.Disk.Path
import Scaffold.Disk.Tree
import Scaffold.Disk.Write
import Scaffold.Generator.Catalogue
import Scaffold.Generator.Create
import Scaffold.Generator.Fault
import Scaffold.Generator.Modules
import Scaffold.Generator.Prepare
import Scaffold.Generator.Provide
import Scaffold.Generator.Request
import Scaffold.Generator.Run
import Scaffold.Generator.Spec
import Scaffold.Keyed
import Scaffold.Main
import Scaffold.Number.Binary64
import Scaffold.Number.Shortest
import Scaffold.Proofs.Artifact.Path
import Scaffold.Proofs.Artifact.Preview
import Scaffold.Proofs.CommandLine.RoundTrip
import Scaffold.Proofs.CommandLine.Token
import Scaffold.Proofs.CommandLine.Word
import Scaffold.Proofs.Composition.Appending
import Scaffold.Proofs.Composition.Bracket
import Scaffold.Proofs.Composition.Displacement
import Scaffold.Proofs.Composition.Document
import Scaffold.Proofs.Composition.Editing
import Scaffold.Proofs.Composition.Effect
import Scaffold.Proofs.Composition.Entry
import Scaffold.Proofs.Composition.Fault
import Scaffold.Proofs.Composition.Frame
import Scaffold.Proofs.Composition.Import
import Scaffold.Proofs.Composition.Importing
import Scaffold.Proofs.Composition.Landing
import Scaffold.Proofs.Composition.Layout
import Scaffold.Proofs.Composition.Listing
import Scaffold.Proofs.Composition.Opening
import Scaffold.Proofs.Composition.Outcome
import Scaffold.Proofs.Composition.Parting
import Scaffold.Proofs.Composition.Reading
import Scaffold.Proofs.Composition.Recovery
import Scaffold.Proofs.Composition.Reference
import Scaffold.Proofs.Composition.Region
import Scaffold.Proofs.Composition.Register
import Scaffold.Proofs.Composition.Repeat
import Scaffold.Proofs.Composition.Rewrite
import Scaffold.Proofs.Composition.Run
import Scaffold.Proofs.Disk.Along
import Scaffold.Proofs.Disk.Exec
import Scaffold.Proofs.Disk.Extends
import Scaffold.Proofs.Disk.Gains
import Scaffold.Proofs.Disk.Growth
import Scaffold.Proofs.Disk.Hindered
import Scaffold.Proofs.Disk.Hindrance
import Scaffold.Proofs.Disk.LastName
import Scaffold.Proofs.Disk.Listing
import Scaffold.Proofs.Disk.Looking
import Scaffold.Proofs.Disk.Replace
import Scaffold.Proofs.Disk.Rooted
import Scaffold.Proofs.Disk.Tree
import Scaffold.Proofs.Disk.Whole
import Scaffold.Proofs.Disk.Write
import Scaffold.Proofs.Generator.Advice
import Scaffold.Proofs.Generator.Again
import Scaffold.Proofs.Generator.Agreement
import Scaffold.Proofs.Generator.Autoload
import Scaffold.Proofs.Generator.Confined
import Scaffold.Proofs.Generator.Create
import Scaffold.Proofs.Generator.DryRun
import Scaffold.Proofs.Generator.Escape
import Scaffold.Proofs.Generator.Literal
import Scaffold.Proofs.Generator.Modules
import Scaffold.Proofs.Generator.Naming
import Scaffold.Proofs.Generator.Nested
import Scaffold.Proofs.Generator.NormalName
import Scaffold.Proofs.Generator.Precedence
import Scaffold.Proofs.Generator.Prepare
import Scaffold.Proofs.Generator.Provide
import Scaffold.Proofs.Generator.Refusal
import Scaffold.Proofs.Generator.Run
import Scaffold.Proofs.Generator.Session
import Scaffold.Proofs.Generator.Suggestion
import Scaffold.Proofs.Generator.Supplied
import Scaffold.Proofs.Keyed
import Scaffold.Proofs.Settings.Body
import Scaffold.Proofs.Settings.Content
import Scaffold.Proofs.Settings.Epoch
import Scaffold.Proofs.Settings.Precedence
import Scaffold.Proofs.Settings.Shape
import Scaffold.Proofs.Settings.Store
import Scaffold.Proofs.Template.Render
import Scaffold.Proofs.Text.Blank
import Scaffold.Proofs.Text.EditDistance
import Scaffold.Proofs.Text.Lines
import Scaffold.Proofs.Text.Pascal
import Scaffold.Proofs.Text.Search
import Scaffold.Proofs.Text.Snake
import Scaffold.Proofs.Text.Spelling
import Scaffold.Proofs.Value.Part
import Scaffold.Proofs.Workspace
import Scaffold.Proofs.Yaml.Flaw
import Scaffold.Proofs.Yaml.Keys
import Scaffold.Settings.Basic
import Scaffold.Settings.Precedence
import Scaffold.Settings.Store
import Scaffold.Shape.Check
import Scaffold.Shape.Problem
import Scaffold.Template.Basic
import Scaffold.Template.Command
import Scaffold.Template.Controller
import Scaffold.Template.Entity
import Scaffold.Template.Event
import Scaffold.Template.Filter
import Scaffold.Template.Handler
import Scaffold.Template.Imports
import Scaffold.Template.Job
import Scaffold.Template.Library
import Scaffold.Template.Listener
import Scaffold.Template.Middleware
import Scaffold.Template.Query
import Scaffold.Template.Seeder
import Scaffold.Template.Service
import Scaffold.Template.Trait
import Scaffold.Text.Affix
import Scaffold.Text.Blank
import Scaffold.Text.CaseTable
import Scaffold.Text.CasedTable
import Scaffold.Text.CellWidth
import Scaffold.Text.CodeRanges
import Scaffold.Text.EditDistance
import Scaffold.Text.LetterCase
import Scaffold.Text.Letters
import Scaffold.Text.Lines
import Scaffold.Text.Phrase
import Scaffold.Text.Quoted
import Scaffold.Text.Search
import Scaffold.Text.Utf8
import Scaffold.Text.Visible
import Scaffold.Text.WordCase
import Scaffold.Value.Basic
import Scaffold.Value.Calendar
import Scaffold.Value.Display
import Scaffold.Value.Fields
import Scaffold.Workspace
import Scaffold.Yaml.Character
import Scaffold.Yaml.Content
import Scaffold.Yaml.Cursor
import Scaffold.Yaml.Fault
import Scaffold.Yaml.Moment
import Scaffold.Yaml.Node
import Scaffold.Yaml.Node.Grammar
import Scaffold.Yaml.Octets
import Scaffold.Yaml.Scalar
import Scaffold.Yaml.Tag
import Scaffold.Yaml.Token
import Scaffold.Yaml.Token.Block
import Scaffold.Yaml.Token.Lexer
import Scaffold.Yaml.Token.Plain
import Scaffold.Yaml.Token.Property
import Scaffold.Yaml.Token.Quoted
