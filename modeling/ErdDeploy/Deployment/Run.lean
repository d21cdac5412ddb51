import ErdDeploy.Deployment.Build
import ErdDeploy.Deployment.Remote
import ErdDeploy.Deployment.Report
import ErdDeploy.Schema.Model

/-!
Converging a remote towards a model.

A run has four stages: option sets, tables, relationships between tables, relationships with
users. Each stage deals with its objects in the order of the model. An object is looked up by
name, and created if it is not there; a failure is recorded with the object and the stage goes
on. A dry run stops short of creating.
-/

namespace ErdDeploy

/-- What a run may do with the remote. -/
inductive Access (σ : Type)
  /-- Look up and create. -/
  | full (client : Client σ)
  /-- Look up only. -/
  | readOnly (client : Client σ)
  /-- Neither, and nothing is to be created. -/
  | offline
  /-- Neither, although objects are to be created. -/
  | detached

/-- The access of a run with or without a client, dry or not. -/
def Access.of {σ : Type} (client : Option (Client σ)) (dryRun : Bool) : Access σ :=
  match client, dryRun with
  | some client, false => .full client
  | some client, true => .readOnly client
  | none, true => .offline
  | none, false => .detached

/-- Why a run has no result. -/
inductive RunError
  /-- A run that is not dry was asked for without a client. -/
  | clientRequired
  /-- A stage that is not dry had something to create and no client. -/
  | noClient
  /-- The remote gave an identifier that is no text. -/
  | identifierNotText
  /-- A call could not make sense of its answer. -/
  | fault (fault : Fault)
  deriving DecidableEq, Repr

/-- What is reported of a run that was asked for without a client. -/
def clientRequiredMessage : String :=
  "A metadata client is required unless dry_run=True"

/-! ## One object -/

/-- A declared object that is to be converged. -/
structure Target where
  kind : ObjectKind
  /-- The name under which a failure is recorded. -/
  label : String
  /-- The name under which the remote knows the object. -/
  name : String
  /-- The payload that creates the object, with the warnings about what it leaves out. -/
  plan : Except MissingKey (Payload × List LogEntry)

/-- What a stage has to do for one declared object. -/
inductive Task
  /-- Nothing: the item is settled. -/
  | settled (item : Item) (log : List LogEntry)
  | converge (target : Target)

namespace Target

variable {σ : Type}

/-- The log entry of a failure. -/
def failureEntry (target : Target) (error : String) : LogEntry :=
  ⟨.error, s!"Failed to converge {target.label}: {error}"⟩

/-- Record a failure with the object. -/
def fail (target : Target) (error : String) (log : List LogEntry) (state : σ) :
    Performed σ RunError Item :=
  ⟨.ok (.failed target.label error), log ++ [target.failureEntry error], state⟩

/-- End with a call that has no result: a failure is recorded, a fault ends the run. -/
def failCall (target : Target) (error : ClientError) (log : List LogEntry) (state : σ) :
    Performed σ RunError Item :=
  match error with
  | .failure failure => target.fail failure.message log state
  | .fault fault => ⟨.error (.fault fault), log, state⟩

/-- The object was there before. -/
def settleExisting (target : Target) (id : RemoteId) (log : List LogEntry) (state : σ) :
    Performed σ RunError Item :=
  let log := log ++
    [⟨.info, target.name ++ " already exists (" ++ id.toValue.message ++ ")"⟩]
  match id with
  | .text id => ⟨.ok (.existing target.name id), log, state⟩
  | _ => ⟨.error .identifierNotText, log, state⟩

/-- The object was created. -/
def settleCreated (target : Target) (id : RemoteId) (log : List LogEntry) (state : σ) :
    Performed σ RunError Item :=
  let log := log ++ [⟨.info, "Created " ++ target.name ++ " (" ++ id.toValue.message ++ ")"⟩]
  match id with
  | .text id => ⟨.ok (.created target.name (some id)), log, state⟩
  | .absent => ⟨.ok (.created target.name none), log, state⟩
  | .other _ => ⟨.error .identifierNotText, log, state⟩

/-- Create the object. -/
def create (target : Target) (client : Client σ) (payload : Payload) (log : List LogEntry)
    (state : σ) : Performed σ RunError Item :=
  let made := client.create payload state
  match made.result with
  | .ok id => target.settleCreated id (log ++ made.log) made.state
  | .error error => target.failCall error (log ++ made.log) made.state

/-- The object is not there: plan it, and create it if `creator` is given. -/
def bringAbout (target : Target) (creator : Option (Client σ)) (log : List LogEntry)
    (state : σ) : Performed σ RunError Item :=
  match target.plan with
  | .error missing => target.fail missing.message log state
  | .ok (payload, warnings) =>
    match creator with
    | none => ⟨.ok (.skipped target.name "would create"), log ++ warnings, state⟩
    | some client => target.create client payload (log ++ warnings) state

/-- Look the object up, and bring it about if it is not there. -/
def converge (target : Target) (client : Client σ) (creator : Option (Client σ)) (state : σ) :
    Performed σ RunError Item :=
  let found := client.find target.kind target.name state
  match found.result with
  | .error error => target.failCall error found.log found.state
  | .ok .absent => target.bringAbout creator found.log found.state
  | .ok id => target.settleExisting id found.log found.state

end Target

/-- Do a task with the given access. -/
def Task.perform {σ : Type} (access : Access σ) (state : σ) :
    Task → Performed σ RunError Item
  | .settled item log => ⟨.ok item, log, state⟩
  | .converge target =>
    match access with
    | .full client => target.converge client (some client) state
    | .readOnly client => target.converge client none state
    | .offline => target.bringAbout none [] state
    | .detached => ⟨.error .noClient, [], state⟩

/-- Do tasks one after the other, up to one that ends the run. -/
def performAll {σ : Type} (access : Access σ) :
    σ → List Task → Performed σ RunError (List Item)
  | state, [] => ⟨.ok [], [], state⟩
  | state, task :: tasks =>
    let done := task.perform access state
    match done.result with
    | .error error => ⟨.error error, done.log, done.state⟩
    | .ok item =>
      let rest := performAll access done.state tasks
      ⟨rest.result.map (item :: ·), done.log ++ rest.log, rest.state⟩

/-! ## Stages -/

/-- One task for each enum. -/
def optionSetTasks (settings : SchemaSettings) (m : Model) : List Task :=
  m.enums.values.map fun enum =>
    .converge
      { kind := .optionSet
        label := enum.name
        name := settings.naming.optionSetName enum.name
        plan := .ok (.optionSet (.ofEnum settings enum), []) }

/-- One task for each table. A reserved table is there already. -/
def tableTasks (settings : SchemaSettings) (optionSetIds : OrderedMap String) (m : Model) :
    List Task :=
  m.tables.values.map fun table =>
    if table.isReserved then .settled (.skipped table.schemaName "extends existing table") []
    else
      .converge
        { kind := .table
          label := table.schemaName
          name := table.schemaName
          plan := (TablePayload.ofTable settings optionSetIds table).map
            fun (payload, warnings) => (.table payload, warnings) }

/-- The task of a relationship whose name an earlier one of the stage has: it cannot be created,
and looking it up would find the other one. -/
def repeatedTask (r : Relationship) : Task :=
  .settled
    (.failed r.schemaName
      (s!"Lookup {r.lookupDisplayName}: relationship name " ++
        "already used by another declaration"))
    [⟨.error, s!"Relationship name {r.schemaName} declared twice"⟩]

/-- One task for each relationship; `before` holds the names that came before in the stage. -/
def relationshipTasks (settings : SchemaSettings) (before : List String) :
    List Relationship → List Task
  | [] => []
  | r :: rest =>
    if before.contains r.schemaName then
      repeatedTask r :: relationshipTasks settings before rest
    else
      .converge
          { kind := .relationship
            label := r.schemaName
            name := r.schemaName
            plan := .ok (.relationship (.ofRelationship settings r), []) } ::
        relationshipTasks settings (r.schemaName :: before) rest

/-- The stages of a run. -/
inductive Stage
  | optionSets
  | tables
  | tableRelationships
  | userRelationships
  deriving DecidableEq, Repr

namespace Stage

/-- The kind of objects that a stage deals with. -/
def kind : Stage → ObjectKind
  | .optionSets => .optionSet
  | .tables => .table
  | .tableRelationships => .relationship
  | .userRelationships => .relationship

/-- What a stage has to do; only the stage of tables needs the identifiers of option sets. -/
def tasks (stage : Stage) (settings : SchemaSettings) (optionSetIds : OrderedMap String)
    (m : Model) : List Task :=
  match stage with
  | .optionSets => optionSetTasks settings m
  | .tables => tableTasks settings optionSetIds m
  | .tableRelationships => relationshipTasks settings [] m.relationships
  | .userRelationships => relationshipTasks settings [] m.userRelationships

/-- Run one stage. -/
def run {σ : Type} (stage : Stage) (access : Access σ) (settings : SchemaSettings)
    (optionSetIds : OrderedMap String) (m : Model) (state : σ) :
    Performed σ RunError StageResult :=
  let done := performAll access state (stage.tasks settings optionSetIds m)
  ⟨done.result.map (.ofItems stage.kind), done.log, done.state⟩

/-- What is logged when a stage begins. -/
def beginning (stage : Stage) (m : Model) : LogEntry :=
  match stage with
  | .optionSets => ⟨.info, s!"Converging {m.enums.size} option sets"⟩
  | .tables => ⟨.info, s!"Converging {m.creatableTables.length} tables"⟩
  | .tableRelationships => ⟨.info, s!"Converging {m.relationships.length} table relationships"⟩
  | .userRelationships =>
    ⟨.info, s!"Converging {m.userRelationships.length} user relationships"⟩

/-- The stages in the order of a run. -/
def all : List Stage :=
  [.optionSets, .tables, .tableRelationships, .userRelationships]

end Stage

/-! ## Runs -/

/-- Run stages one after the other. Each sees the option sets that the run knows so far. -/
def runStages {σ : Type} (access : Access σ) (settings : SchemaSettings) (m : Model) :
    List Stage → Summary → σ → Performed σ RunError Summary
  | [], summary, state => ⟨.ok summary, [], state⟩
  | stage :: stages, summary, state =>
    let done := stage.run access settings summary.registry.optionSets m state
    let log := stage.beginning m :: done.log
    match done.result with
    | .error error => ⟨.error error, log, done.state⟩
    | .ok result =>
      let rest := runStages access settings m stages (summary.withStage result) done.state
      ⟨rest.result, log ++ rest.log, rest.state⟩

/-- Converge the remote towards a model. Without a client only a dry run is possible. -/
def Model.deploy {σ : Type} (m : Model) (client : Option (Client σ)) (settings : SchemaSettings)
    (dryRun : Bool) (state : σ) : Performed σ RunError Summary :=
  match Access.of client dryRun with
  | .detached => ⟨.error .clientRequired, [], state⟩
  | access => runStages access settings m Stage.all (.start m.diagnostics dryRun) state

end ErdDeploy
