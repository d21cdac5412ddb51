import ErdDeploy.Command.Arguments
import ErdDeploy.Command.Console
import ErdDeploy.Command.Execution
import ErdDeploy.Command.Invocation
import ErdDeploy.Command.Markup
import ErdDeploy.Command.Rendering
import ErdDeploy.Command.Surroundings
import ErdDeploy.Data.Check
import ErdDeploy.Data.OrderedMap
import ErdDeploy.Data.Value
import ErdDeploy.Deployment.Build
import ErdDeploy.Deployment.MemoryRemote
import ErdDeploy.Deployment.Record
import ErdDeploy.Deployment.Remote
import ErdDeploy.Deployment.Report
import ErdDeploy.Deployment.Run
import ErdDeploy.Files.FilePath
import ErdDeploy.Files.Workspace
import ErdDeploy.Json.Reader
import ErdDeploy.Json.Writer
import ErdDeploy.Log
import ErdDeploy.Main
import ErdDeploy.Metadata.Attribute
import ErdDeploy.Metadata.Body
import ErdDeploy.Metadata.Payload
import ErdDeploy.Metadata.Record
import ErdDeploy.Number.Binary64
import ErdDeploy.Number.DecimalText
import ErdDeploy.Number.IntegerText
import ErdDeploy.Proofs.Data.OrderedMap
import ErdDeploy.Proofs.Deployment.Exchange
import ErdDeploy.Proofs.Deployment.Tasks
import ErdDeploy.Schema.ColumnType
import ErdDeploy.Schema.Field
import ErdDeploy.Schema.FieldLine
import ErdDeploy.Schema.Lookup
import ErdDeploy.Schema.Model
import ErdDeploy.Schema.Naming
import ErdDeploy.Schema.Record
import ErdDeploy.Schema.Relationship
import ErdDeploy.Schema.SourceFile
import ErdDeploy.Schema.Table
import ErdDeploy.Settings.Config
import ErdDeploy.Settings.Profile
import ErdDeploy.Settings.SchemaSettings
import ErdDeploy.Settings.Selection
import ErdDeploy.Source.Diagnostic
import ErdDeploy.Source.EnumValue
import ErdDeploy.Source.Finding
import ErdDeploy.Source.Header
import ErdDeploy.Source.Line
import ErdDeploy.Source.Reading
import ErdDeploy.Source.Reference
import ErdDeploy.Text.Alphanumeric
import ErdDeploy.Text.Blank
import ErdDeploy.Text.CaseTable
import ErdDeploy.Text.Digit
import ErdDeploy.Text.DigitTable
import ErdDeploy.Text.Letter
import ErdDeploy.Text.Lines
import ErdDeploy.Text.Printable
import ErdDeploy.Text.Quoted
import ErdDeploy.Text.Range
import ErdDeploy.Text.Utf8
import ErdDeploy.Toml.Document
import ErdDeploy.Toml.Reader
import ErdDeploy.Toml.Scalar
import ErdDeploy.Web.Literal
import ErdDeploy.Web.Message
import ErdDeploy.Web.MetadataClient
import ErdDeploy.Web.Script
import ErdDeploy.Web.Token
import ErdDeploy.Proofs.Deployment.MemoryRun
import ErdDeploy.Proofs.Deployment.CreationHistory
import ErdDeploy.Proofs.Deployment.Rerun
import ErdDeploy.Proofs.Deployment.Recovery
import ErdDeploy.Proofs.Schema.Injection
import ErdDeploy.Proofs.Schema.Origin
import ErdDeploy.Proofs.Deployment.Coverage
import ErdDeploy.Proofs.Schema.Requiredness
import ErdDeploy.Proofs.Deployment.Reports
import ErdDeploy.Proofs.Deployment.SharedNames
import ErdDeploy.Proofs.Deployment.RepeatedNames
import ErdDeploy.Proofs.Deployment.ChoiceColumns
import ErdDeploy.Proofs.Deployment.DryRun
import ErdDeploy.Proofs.Deployment.Isolation
import ErdDeploy.Proofs.Source.Comments
import ErdDeploy.Proofs.Source.Writing
import ErdDeploy.Proofs.Schema.Layout
import ErdDeploy.Proofs.Schema.Refusal
import ErdDeploy.Proofs.Schema.FieldKinds
import ErdDeploy.Proofs.Deployment.ReferenceOrder
import ErdDeploy.Proofs.Deployment.ColumnNames
import ErdDeploy.Proofs.Schema.LookupTargets
import ErdDeploy.Proofs.Schema.Resolution
import ErdDeploy.Proofs.Schema.Frame
import ErdDeploy.Proofs.Schema.Reinjection
import ErdDeploy.Proofs.Source.BlockEnds
import ErdDeploy.Proofs.Source.BodyContents
import ErdDeploy.Proofs.Web.Absence
import ErdDeploy.Proofs.Web.Sense
import ErdDeploy.Proofs.Text.Keywords
import ErdDeploy.Proofs.Web.Repetitions
import ErdDeploy.Proofs.Source.Patterns
import ErdDeploy.Proofs.Source.Dispatch
import ErdDeploy.Proofs.Source.Origins
import ErdDeploy.Proofs.Source.Succession
import ErdDeploy.Proofs.Source.Places
import ErdDeploy.Proofs.Web.Lifetimes
import ErdDeploy.Proofs.Deployment.OfflineRun
import ErdDeploy.Proofs.Data.Results
import ErdDeploy.Proofs.Command.Printing
import ErdDeploy.Proofs.Command.ExitCodes
import ErdDeploy.Proofs.Command.Obstructions
import ErdDeploy.Proofs.Deployment.TableShape
import ErdDeploy.Proofs.Metadata.Record
import ErdDeploy.Proofs.Schema.SourceFile
import ErdDeploy.Proofs.Schema.Redeclarations
import ErdDeploy.Proofs.Deployment.OptionCodes
import ErdDeploy.Proofs.Source.EnumValue
import ErdDeploy.Proofs.Schema.FieldLine
import ErdDeploy.Proofs.Schema.TakenNames
import ErdDeploy.Proofs.Deployment.GuardedNames
import ErdDeploy.Proofs.Web.LookupPaths
