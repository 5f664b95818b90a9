import EntityScaffold.Command.Run
import EntityScaffold.Main
import EntityScaffold.Model.Notation
import EntityScaffold.Options.File
import EntityScaffold.Proofs.Configuration
import EntityScaffold.Proofs.Generation.Isolation
import EntityScaffold.Proofs.Generation.Dependencies
import EntityScaffold.Scaffolder
import EntityScaffold.Templates.Bundled
import EntityScaffold.Proofs.Template.Plans
import EntityScaffold.Proofs.Template.Evaluation
import EntityScaffold.Proofs.Template.Failing
import EntityScaffold.Proofs.Template.Unresolved
import EntityScaffold.Proofs.Template.Operands
import EntityScaffold.Proofs.Template.Moving
import EntityScaffold.Proofs.Template.Stack
import EntityScaffold.Proofs.Template.Recovery
import EntityScaffold.Proofs.Template.Origin
import EntityScaffold.Proofs.Generation.Endings
import EntityScaffold.Proofs.Template.Shapes
import EntityScaffold.Proofs.Template.Fitting
import EntityScaffold.Proofs.Generation.Views
import EntityScaffold.Proofs.Generation.Presets
import EntityScaffold.Proofs.Generation.Bundled
import EntityScaffold.Proofs.Generation.Complete
import EntityScaffold.Proofs.Generation.Schedules
import EntityScaffold.Proofs.Generation.Referring
import EntityScaffold.Proofs.Generation.Calls
import EntityScaffold.Proofs.Template.Agreement
import EntityScaffold.Proofs.Template.Heredity
import EntityScaffold.Proofs.Template.Inclusions
import EntityScaffold.Proofs.Template.Shadowing
import EntityScaffold.Proofs.Template.WrittenCalls
import EntityScaffold.Proofs.Generation.Roles
import EntityScaffold.Proofs.Generation.Files
import EntityScaffold.Proofs.Generation.Modes
import EntityScaffold.Proofs.Text.Words
import EntityScaffold.Proofs.Command.Paths
import EntityScaffold.Proofs.Command.Outputs
import EntityScaffold.Proofs.Generation.Resolution
import EntityScaffold.Proofs.Configuration.Steps
import EntityScaffold.Proofs.Generation.Imports
import EntityScaffold.Proofs.Template.FurtherHelpers
import EntityScaffold.Proofs.Generation.ImportLists
import EntityScaffold.Proofs.Templates.Paths
import EntityScaffold.Proofs.Template.Nesting
import EntityScaffold.Proofs.Generation.Members
import EntityScaffold.Proofs.Template.Dispatch
import EntityScaffold.Proofs.Template.Printing
import EntityScaffold.Proofs.Templates.Parsed
import EntityScaffold.Proofs.Generation.Emitted
import EntityScaffold.Proofs.Template.Rebasing
import EntityScaffold.Proofs.Template.RebasedCalls
import EntityScaffold.Proofs.Template.OwnData
import EntityScaffold.Proofs.Template.DataSections
import EntityScaffold.Proofs.Generation.Declared
import EntityScaffold.Proofs.Template.Reading
import EntityScaffold.Proofs.Template.SourceCalls
import EntityScaffold.Proofs.Generation.Languages
import EntityScaffold.Proofs.Json.Compact
import EntityScaffold.Proofs.Model.Written
import EntityScaffold.Proofs.Model.RoundTrip
import EntityScaffold.Proofs.Command.Directories
import EntityScaffold.Proofs.Command.Exports
import EntityScaffold.Proofs.Command.ExportSuccess
import EntityScaffold.Proofs.Command.ExportedTemplates
import EntityScaffold.Proofs.Text.Trimming
import EntityScaffold.Proofs.Helper.Indentation
import EntityScaffold.Proofs.Language.TypeNames
import EntityScaffold.Proofs.Command.Generating
import EntityScaffold.Proofs.Command.Deliveries
