import ErdDeploy.Command.Console
import ErdDeploy.Command.Invocation
import ErdDeploy.Deployment.Run

/-!
What the commands do.

Each command ends with an exit code, zero if it did what it was asked for. Findings about the
files, the configuration and the profile are reported and end in one; what no command expects
ends it without a code, and so does a console that refuses what it is to show. What comes behind
the refused item is then neither shown nor done.
-/

namespace ErdDeploy

/-- What no command expects. -/
inductive Crash
  | input (failure : CommandFailure)
  | run (error : RunError)
  /-- The console refused to show something. -/
  | refusal (cause : Refusal)
  deriving DecidableEq, Repr

/-- How a command ends. -/
inductive Ending
  | exit (code : Nat)
  | crash (cause : Crash)
  deriving DecidableEq, Repr

/-- What a command shows and how it ends. -/
structure Transcript where
  items : List ConsoleItem
  ending : Ending
  deriving DecidableEq, Repr

namespace Transcript

/-- Show something first. If the console refuses some of it, the command ends there. -/
def after (console : Console) (items : List ConsoleItem) (transcript : Transcript) : Transcript :=
  match console.firstRefusal? items with
  | some refusal => ⟨console.shown items, .crash (.refusal refusal)⟩
  | none => { transcript with items := items ++ transcript.items }

/-- Show something and end. -/
def ofItems (console : Console) (items : List ConsoleItem) (ending : Ending) : Transcript :=
  after console items ⟨[], ending⟩

/-- A command that ends at a failure. -/
def ofFailure (console : Console) (failure : CommandFailure) : Transcript :=
  if failure.isFinding then ofItems console [.failure failure] (.exit 1)
  else ⟨[], .crash (.input failure)⟩

/-- Leave out what is not shown. -/
def shown (verbose : Bool) (transcript : Transcript) : Transcript :=
  { transcript with items := transcript.items.filter (ConsoleItem.isShown verbose) }

end Transcript

namespace Command

/-! ## Settings -/

/-- The settings for a source. Without a configuration there are the default ones, but a path
that is named has to lead to one. -/
def loadSettings (workspace : Workspace) (config : Option String) :
    Except ConfigError SchemaSettings :=
  let named := nonempty? config
  match named, workspace.look (Config.path none) with
  | none, .ok none => .ok {}
  | _, _ => (Config.load workspace named).map Config.schema

/-! ## Showing a source -/

/-- What is shown of a source that was refused. -/
def refused (console : Console) : SourceFileError → Transcript
  | .refused (.syntaxErrors errors) =>
    .ofItems console
      (.line "[bold red]x[/bold red] ERD source has syntax errors:" ::
        ConsoleItem.ofDiagnostics console.escape errors)
      (.exit 1)
  | error => .ofFailure console (.source error)

/-- The diagnostics of a model below its tables. -/
def diagnosticItems (escape : String → String) (m : Model) : List ConsoleItem :=
  if m.diagnostics.isEmpty then []
  else
    ConsoleItem.emptyLine :: ConsoleItem.diagnosticsHeading ::
      ConsoleItem.ofDiagnostics escape m.diagnostics

/-- Show what a source declares. -/
def showSource (workspace : Workspace) (console : Console) (options : GlobalOptions)
    (source : String) (isStrict : Bool) : Transcript :=
  match loadSettings workspace options.config with
  | .error error => .ofFailure console (.config error)
  | .ok settings =>
    let path := FilePath.ofText source
    let transcript : Transcript :=
      match Model.ofFile workspace path settings.naming isStrict with
      | .error error => refused console error
      | .ok m =>
        .ofItems console (ConsoleItem.ofModel m ++ diagnosticItems console.escape m) (.exit 0)
    transcript.after console
      (ConsoleItem.ofLog (Model.fileLog workspace path settings.naming isStrict))

/-! ## Listing profiles -/

/-- List the profiles. -/
def listProfiles (workspace : Workspace) (console : Console) (options : GlobalOptions) :
    Transcript :=
  match Config.load workspace (nonempty? options.config) with
  | .error error => .ofFailure console (.config error)
  | .ok config => .ofItems console (ConsoleItem.ofConfig config) (.exit 0)

/-! ## Deploying -/

/-- Where a source is deployed to: nowhere, or to the environment of a profile. -/
inductive Destination
  | nowhere
  | profile (name : String) (profile : Profile)

/-- The destination and the settings of a deployment. -/
def prepare (workspace : Workspace) (options : GlobalOptions) (profile : Option String)
    (isDryRun : Bool) : Except CommandFailure (Destination × SchemaSettings) :=
  if isDryRun then
    ((loadSettings workspace options.config).mapError .config).map fun settings =>
      (.nowhere, settings)
  else
    match Config.load workspace (nonempty? options.config) with
    | .error error => .error (.config error)
    | .ok config =>
      match config.select workspace profile options.variablePrefix with
      | .error error => .error (.selection error)
      | .ok (name, profile) => .ok (.profile name profile, config.schema)

/-- The diagnostics of a model above its deployment. -/
def diagnosticPreamble (escape : String → String) (m : Model) : List ConsoleItem :=
  if m.diagnostics.isEmpty then []
  else
    ConsoleItem.diagnosticsHeading :: ConsoleItem.ofDiagnostics escape m.diagnostics ++
      [ConsoleItem.emptyLine]

/-- The heading of a deployment to the environment of a profile. -/
def profileHeading (name : String) : ConsoleItem :=
  .line ("Deploying to profile: " ++ Markup.tagged "bold cyan" name)

/-- The last lines of a deployment. -/
def closingItems (summary : Summary) : List ConsoleItem :=
  if summary.dryRun then
    [ConsoleItem.emptyLine, .line "[bold yellow]DRY RUN[/bold yellow] - No changes made."]
  else if summary.isSuccess then
    [.line s!"[bold green]v[/bold green] Deployment complete ({summary.created} created)."]
  else [.line "[bold red]x[/bold red] Deployment finished with failures."]

/-- The exit code of a deployment. A dry run cannot fail. -/
def exitCode (summary : Summary) : Nat :=
  if summary.dryRun || summary.isSuccess then 0 else 1

/-- What is shown of the summary of a deployment. -/
def resultItems (escape : String → String) (summary : Summary) : List ConsoleItem :=
  ConsoleItem.ofSummary escape summary ++ closingItems summary

/-- What is shown of a run and how it ends. -/
def ofRun {σ : Type} (console : Console) (run : Performed σ RunError Summary) : Transcript :=
  let transcript : Transcript :=
    match run.result with
    | .error error => ⟨[], .crash (.run error)⟩
    | .ok summary =>
      .ofItems console (resultItems console.escape summary) (.exit (exitCode summary))
  transcript.after console (ConsoleItem.ofLog run.log)

/-- Show something before what is done to a world. If the console refuses some of it, nothing is
done. -/
def showFirst {σ : Type} (console : Console) (items : List ConsoleItem) (world : σ)
    (next : Transcript × σ) : Transcript × σ :=
  (next.1.after console items,
    if (console.firstRefusal? items).isSome then world else next.2)

section

variable {σ τ : Type} [Reckoning τ]

/-- Deploy a model to the environment of a profile. The transport is closed whether or not the
run has a result, but it is not opened without a way in. -/
def deployTo (workspace : Workspace) (console : Console) (options : GlobalOptions)
    (transport : Transport σ τ) (profile : Profile) (settings : SchemaSettings) (m : Model)
    (world : σ) : Transcript × σ :=
  match profile.endpoint workspace options.variablePrefix with
  | .error error => (.ofFailure console (.selection error), world)
  | .ok (endpoint, log) =>
    let run := m.deploy (some (endpoint.client transport)) settings false
      ⟨world, TokenCache.empty⟩
    ((ofRun console run).after console (ConsoleItem.ofLog log),
      transport.close run.state.world)

/-- Deploy a model. -/
def deployModel (workspace : Workspace) (console : Console) (options : GlobalOptions)
    (transport : Transport σ τ) (destination : Destination) (settings : SchemaSettings)
    (m : Model) (world : σ) : Transcript × σ :=
  match destination with
  | .nowhere => (ofRun console (m.deploy (σ := Unit) none settings true ()), world)
  | .profile name profile =>
    showFirst console [profileHeading name] world
      (deployTo workspace console options transport profile settings m world)

/-- Deploy a source. -/
def deploySource (workspace : Workspace) (console : Console) (options : GlobalOptions)
    (transport : Transport σ τ) (source : String) (profile : Option String) (isDryRun : Bool)
    (world : σ) : Transcript × σ :=
  match prepare workspace options profile isDryRun with
  | .error failure => (.ofFailure console failure, world)
  | .ok (destination, settings) =>
    let path := FilePath.ofText source
    let log := ConsoleItem.ofLog (Model.fileLog workspace path settings.naming false)
    match Model.ofFile workspace path settings.naming false with
    | .error error => ((Transcript.ofFailure console (.source error)).after console log, world)
    | .ok m =>
      showFirst console (log ++ diagnosticPreamble console.escape m) world
        (deployModel workspace console options transport destination settings m world)

/-- Execute a command. Log entries that are not notable are shown on demand only. -/
def execute (workspace : Workspace) (console : Console) (options : GlobalOptions)
    (transport : Transport σ τ) (command : Command) (world : σ) : Transcript × σ :=
  let (transcript, world) : Transcript × σ :=
    match command with
    | .parse source isStrict => (showSource workspace console options source isStrict, world)
    | .deploy source profile isDryRun =>
      deploySource workspace console options transport source profile isDryRun world
    | .profiles => (listProfiles workspace console options, world)
  (transcript.shown options.isVerbose, world)

end

end Command

end ErdDeploy
