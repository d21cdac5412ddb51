import ErdDeploy.Command.Markup
import ErdDeploy.Deployment.Report
import ErdDeploy.Log
import ErdDeploy.Schema.SourceFile
import ErdDeploy.Settings.Selection

/-!
What commands show.

A command shows lines, tables and log entries, in the order in which they come about. All texts
hold markup; where a text is to be shown as it is, `escape` takes the meaning from what it holds.
What reports, models and configurations look like on a console is told here; the commands only
choose what to show.

How markup is read is the console's affair. A `Console` says how texts are escaped for it, and it
may refuse an item, such as one with a name that it reads as markup without sense.
-/

namespace ErdDeploy

/-- A table on a console. -/
structure ConsoleTable where
  title : Option String
  columns : List String
  rows : List (List String)
  deriving DecidableEq, Repr

/-- Why a command does not do what it was asked for. -/
inductive CommandFailure
  | config (error : ConfigError)
  | source (error : SourceFileError)
  | selection (error : SelectionError)
  deriving DecidableEq, Repr

/-- What is reported of a failure. -/
def CommandFailure.message : CommandFailure → String
  | .config error => error.message
  | .source error => error.message
  | .selection error => error.message

/-- Whether a failure is a finding about what the command was given, which it reports. The others
end the command. -/
def CommandFailure.isFinding : CommandFailure → Bool
  | .config error => error.isFinding
  | .source error => error.isFinding
  | .selection _ => true

/-- One thing that is shown. -/
inductive ConsoleItem
  | line (text : String)
  | failure (cause : CommandFailure)
  | table (table : ConsoleTable)
  | log (entry : LogEntry)
  deriving DecidableEq, Repr

namespace ConsoleItem

/-- The line that shows a message of failure. -/
def failureLine (escape : String → String) (message : String) : String :=
  Markup.tagged "red" ("Error: " ++ escape message)

/-- Whether an item is shown. Log entries that are not notable are shown on demand only. -/
def isShown (verbose : Bool) : ConsoleItem → Bool
  | .log entry => verbose || entry.level.isNotable
  | _ => true

/-- Log entries as items. -/
def ofLog (log : List LogEntry) : List ConsoleItem :=
  log.map .log

/-! ## Diagnostics -/

/-- The colour of a severity. -/
def severityTag : Severity → String
  | .warning => "yellow"
  | .error => "red"

/-- The lines of some diagnostics. -/
def ofDiagnostics (escape : String → String) (diagnostics : List Diagnostic) :
    List ConsoleItem :=
  diagnostics.map fun d =>
    .line ("  " ++ Markup.tagged (severityTag d.severity) (escape d.format))

/-- The heading above diagnostics. -/
def diagnosticsHeading : ConsoleItem :=
  .line "[bold]Diagnostics:[/bold]"

/-- An empty line. -/
def emptyLine : ConsoleItem :=
  .line ""

/-! ## Models -/

/-- The table of the enums. -/
def enumTable (m : Model) : ConsoleTable where
  title := some "Enums"
  columns := ["Enum", "Values"]
  rows := m.enums.values.map fun enum => [enum.name, String.intercalate ", " enum.values]

/-- The schema name of a table, with a remark if it exists already. -/
def schemaNameCell (table : Table) : String :=
  if table.isReserved then table.schemaName ++ " [dim](existing)[/dim]" else table.schemaName

/-- The fields of a table with their kinds. -/
def fieldsCell (table : Table) : String :=
  String.intercalate ", " (table.fields.values.map fun f => f.name ++ ":" ++ f.kind.word)

/-- The table of the tables. -/
def tableTable (m : Model) : ConsoleTable where
  title := some "Tables"
  columns := ["Table", "Schema Name", "Fields"]
  rows := m.tables.values.map fun t => [t.name, schemaNameCell t, fieldsCell t]

/-- The table of the relationships. -/
def relationshipTable (relationships : List Relationship) : ConsoleTable where
  title := some "Relationships"
  columns := ["Schema Name", "Referenced", "Referencing", "Lookup"]
  rows := relationships.map fun r =>
    [r.schemaName, r.referencedEntity, r.referencingEntity, r.lookupSchemaName]

/-- A table, unless it has no rows. -/
def unlessEmpty (table : ConsoleTable) : List ConsoleItem :=
  if table.rows.isEmpty then [] else [.table table]

/-- What is shown of a model. -/
def ofModel (m : Model) : List ConsoleItem :=
  unlessEmpty (enumTable m) ++ [.table (tableTable m)] ++
    unlessEmpty (relationshipTable (m.relationships ++ m.userRelationships))

/-! ## Summaries -/

/-- A kind of objects as a cell. -/
def kindCell : ObjectKind → String
  | .optionSet => "option sets"
  | .table => "tables"
  | .relationship => "relationships"

/-- How many objects failed, in red if any did. -/
def failedCell (failed : Nat) : String :=
  if failed = 0 then "0" else Markup.tagged "red" (toString failed)

/-- The table of the counts. -/
def summaryTable (summary : Summary) : ConsoleTable where
  title := some "Deployment Summary"
  columns := ["Category", "Declared", "Created", "Existing", "Failed"]
  rows := summary.reports.map fun report =>
    [kindCell report.kind, toString report.declared, toString report.created,
      toString report.existing, failedCell report.failed]

/-- The colour of an outcome. -/
def outcomeTag : Outcome → String
  | .created => "bold green"
  | .existing => "cyan"
  | .failed => "bold red"
  | .skipped => "yellow"

/-- The first of some texts that is there and not empty. -/
def firstText (texts : List (Option String)) : String :=
  (texts.findSome? nonempty?).getD ""

/-- What is told about an item: its error, its note or its identifier. -/
def detailCell (escape : String → String) (item : Item) : String :=
  escape (firstText [item.error, item.note, item.identifier])

/-- The table of the items. -/
def itemTable (escape : String → String) (summary : Summary) : ConsoleTable where
  title := none
  columns := ["Object", "Outcome", "Detail"]
  rows := (summary.reports.flatMap Report.items).map fun item =>
    [item.name, Markup.tagged (outcomeTag item.outcome) item.outcome.word, detailCell escape item]

/-- What is shown of a summary. -/
def ofSummary (escape : String → String) (summary : Summary) : List ConsoleItem :=
  .table (summaryTable summary) :: unlessEmpty (itemTable escape summary)

/-! ## Profiles -/

/-- The table of the profiles. -/
def profileTable (config : Config) : ConsoleTable where
  title := some "Environment Profiles"
  columns := ["Profile", "URL", "Solution", "Description"]
  rows := config.profiles.entries.map fun (name, profile) =>
    [name, profile.url, profile.solution.getD "", profile.description]

/-- What is shown of a configuration. -/
def ofConfig (config : Config) : List ConsoleItem :=
  [.table (profileTable config),
    .line (Markup.tagged "dim" "Prefix:" ++ " " ++ config.schema.nameSpace)]

end ConsoleItem

/-! ## Consoles -/

/-- What items are shown on. -/
structure Console where
  /-- Write a text so that the console shows it as it is. -/
  escape : String → String
  /-- The lines that show an item, or why the console does not show it. -/
  print : ConsoleItem → Except Refusal (List String)

namespace Console

/-- Why an item ends the command that shows it, if it does. A log entry never does: one that is
refused is passed over. -/
def refusal? (console : Console) (item : ConsoleItem) : Option Refusal :=
  match item, console.print item with
  | .log _, _ => none
  | _, .error refusal => some refusal
  | _, .ok _ => none

/-- Why the first item that ends the command does so, if there is one. -/
def firstRefusal? (console : Console) (items : List ConsoleItem) : Option Refusal :=
  items.findSome? console.refusal?

/-- The items in front of the first one that ends the command. -/
def shown (console : Console) (items : List ConsoleItem) : List ConsoleItem :=
  items.takeWhile fun item => (console.refusal? item).isNone

end Console

end ErdDeploy
