import ErdDeploy.Proofs.Data.Lists
import ErdDeploy.Proofs.Deployment.Exchange
import ErdDeploy.Proofs.Deployment.Summaries
import ErdDeploy.Proofs.Deployment.Tasks

/-!
What a run reports, whatever the remote does.

All that a run relies on is that its client answers as it should (`Client.Answers`):
a lookup gives a text or nothing, a creation gives a text, and either call may fail
at any time. The items that a task can come to are then few (`Task.Reported`), no
task ends the run, and the run reports one item for each of its tasks
(`Model.reported`). A run without a client is a dry run with a client that finds
nothing (`Model.deploy_offline`).

`Summary.Faithful` says what the summary of a run tells about its model, and
`Model.deploy_faithful` that every run has such a summary.
-/

namespace ErdDeploy

/-! ## Clients that answer -/

/-- A lookup gives a text or nothing and a creation a text, unless the call fails. -/
structure Client.Answers {σ : Type} (client : Client σ) : Prop where
  find : ∀ kind name state,
    (∃ failure, (client.find kind name state).result = .error (.failure failure)) ∨
      (client.find kind name state).result = .ok .absent ∨
      ∃ id, (client.find kind name state).result = .ok (.text id)
  create : ∀ payload state,
    (∃ failure, (client.create payload state).result = .error (.failure failure)) ∨
      ∃ id, (client.create payload state).result = .ok (.text id)

/-- A client of a remote that has nothing and refuses everything. -/
def Client.vacant {σ : Type} : Client σ where
  find _ _ state := ⟨.ok .absent, [], state⟩
  create _ state := ⟨.error (.failure ⟨"refused", none, .null⟩), [], state⟩

theorem Client.answers_vacant {σ : Type} : (Client.vacant : Client σ).Answers :=
  ⟨fun _ _ _ => Or.inr (Or.inl rfl), fun _ _ => Or.inl ⟨_, rfl⟩⟩

/-! ## Items -/

/-- The items that a target can come to. -/
inductive Target.Reported (target : Target) : Item → Prop
  | failed (error : String) : Reported target (.failed target.label error)
  | skipped : Reported target (.skipped target.name "would create")
  | existing (id : String) : Reported target (.existing target.name id)
  | created (id : String) : Reported target (.created target.name (some id))

/-- The items that a task can come to. -/
inductive Task.Reported : Task → Item → Prop
  | settled (item : Item) (log : List LogEntry) : Reported (.settled item log) item
  | converge {target : Target} {item : Item} :
      target.Reported item → Reported (.converge target) item

/-- A failed item bears the label of its target, and any other the name. -/
theorem Target.Reported.name {target : Target} {item : Item} (reported : target.Reported item) :
    item.name = if item.outcome = .failed then target.label else target.name := by
  cases reported with
  | failed error => rfl
  | skipped => rfl
  | existing id => rfl
  | created id => rfl

/-- An item has an identifier exactly if its object is there. -/
theorem Task.Reported.identifier {task : Task} {item : Item} {kind : ObjectKind}
    (fits : task.Fits kind) (reported : task.Reported item) :
    item.identifier.isSome = true ↔ item.outcome = .created ∨ item.outcome = .existing := by
  cases reported with
  | settled item log =>
      obtain ⟨skipped | failed, unknown⟩ := fits
      · simp [skipped, unknown]
      · simp [failed, unknown]
  | converge reported =>
      cases reported with
      | failed error => simp [Item.failed]
      | skipped => simp [Item.skipped]
      | existing id => simp [Item.existing]
      | created id => simp [Item.created]

section

variable {σ : Type} {client : Client σ} {dryRun : Bool} {state after : σ}
  {exchanges : List Exchange}

/-- With a client that answers, every target comes to an item. -/
theorem Target.Outcome.reported {target : Target} {result : Except RunError Item}
    (answers : client.Answers)
    (outcome : target.Outcome client dryRun state result exchanges after) :
    ∃ item, result = .ok item ∧ target.Reported item := by
  cases outcome with
  | lookupFailed called =>
      have answer := answers.find target.kind target.name state
      rw [called] at answer
      rcases answer with ⟨failure, same⟩ | same | ⟨id, same⟩
      · cases same
        exact ⟨_, rfl, .failed _⟩
      · cases same
      · cases same
  | found present called =>
      have answer := answers.find target.kind target.name state
      rw [called] at answer
      rcases answer with ⟨failure, same⟩ | same | ⟨id, same⟩
      · cases same
      · cases same
        exact absurd rfl present
      · cases same
        exact ⟨_, rfl, .existing id⟩
  | unplanned _ _ => exact ⟨_, rfl, .failed _⟩
  | skipped _ _ _ => exact ⟨_, rfl, .skipped⟩
  | @refused payload _ _ middle _ _ _ _ _ _ called =>
      have answer := answers.create payload middle
      rw [called] at answer
      rcases answer with ⟨failure, same⟩ | ⟨id, same⟩
      · cases same
        exact ⟨_, rfl, .failed _⟩
      · cases same
  | @created payload _ _ middle _ _ _ _ _ _ called =>
      have answer := answers.create payload middle
      rw [called] at answer
      rcases answer with ⟨failure, same⟩ | ⟨id, same⟩
      · cases same
      · cases same
        exact ⟨_, rfl, .created id⟩

/-! ## Stages and runs -/

/-- With a client that answers, every stage comes to one item for each of its tasks. -/
theorem Sweep.reported {tasks : List Task} {result : Except RunError (List Item)}
    (answers : client.Answers) (sweep : Sweep client dryRun state tasks result exchanges after) :
    ∃ items, result = .ok items ∧ List.Forall₂ Task.Reported tasks items := by
  have step : ∀ {task : Task} {before after : σ} {result exchanges},
      Task.Step client dryRun before task result exchanges after →
        ∃ item, result = .ok item ∧ task.Reported item := by
    intro task before after result exchanges step
    cases step with
    | settled item log => exact ⟨_, rfl, .settled item log⟩
    | converge outcome =>
        obtain ⟨item, same, reported⟩ := outcome.reported answers
        exact ⟨item, same, .converge reported⟩
  induction sweep with
  | done state => exact ⟨[], rfl, .nil⟩
  | halt first =>
      obtain ⟨item, same, -⟩ := step first
      cases same
  | next first _ ih =>
      obtain ⟨item, same, reported⟩ := step first
      cases same
      obtain ⟨items, rfl, rest⟩ := ih
      exact ⟨_, rfl, .cons reported rest⟩

theorem Journey.reported {settings : SchemaSettings} {m : Model} {stage : Stage}
    {stages : List Stage} {summary : Summary} {result : Except RunError Summary}
    (answers : client.Answers)
    (journey : Journey client dryRun settings m (stage :: stages) summary state result exchanges
      after) :
    ∃ items middle later,
      List.Forall₂ Task.Reported (stage.tasks settings summary.registry.optionSets m) items ∧
      Journey client dryRun settings m stages (summary.withStage (.ofItems stage.kind items)) middle
        result later after := by
  cases journey with
  | halt sweep =>
      obtain ⟨items, same, -⟩ := sweep.reported answers
      cases same
  | next sweep rest =>
      obtain ⟨items, same, reported⟩ := sweep.reported answers
      cases same
      exact ⟨_, _, _, reported, rest⟩

/-- With a client that answers, every run comes to a summary with one item for each task. -/
theorem Model.reported (m : Model) (settings : SchemaSettings) (dryRun : Bool) (state : σ)
    (answers : client.Answers) :
    ∃ optionSets tables relationships userRelationships,
      (m.deploy (some client) settings dryRun state).result =
        .ok (.ofItems m.diagnostics dryRun optionSets tables relationships userRelationships) ∧
      List.Forall₂ Task.Reported (optionSetTasks settings m) optionSets ∧
      List.Forall₂ Task.Reported
        (tableTasks settings (Registry.identifiersOf optionSets) m) tables ∧
      List.Forall₂ Task.Reported (relationshipTasks settings [] m.relationships) relationships ∧
      List.Forall₂ Task.Reported (relationshipTasks settings [] m.userRelationships)
        userRelationships := by
  obtain ⟨optionSets, _, _, first, rest₁⟩ :=
    (m.journey client settings dryRun state).reported answers
  obtain ⟨tables, _, _, second, rest₂⟩ := rest₁.reported answers
  obtain ⟨relationships, _, _, third, rest₃⟩ := rest₂.reported answers
  obtain ⟨userRelationships, _, _, fourth, rest₄⟩ := rest₃.reported answers
  rw [Stage.kind, Summary.registry_optionSets_start] at second
  refine ⟨optionSets, tables, relationships, userRelationships, ?_, first, second, third, fourth⟩
  generalize (m.deploy (some client) settings dryRun state).result = result at rest₄
  generalize (m.deploy (some client) settings dryRun state).state = after at rest₄
  cases rest₄ with
  | done => rfl

end

/-! ## Runs without a client -/

section

variable {σ : Type} {access access' : Access σ}

theorem performAll_congr
    (same : ∀ state (task : Task), task.perform access state = task.perform access' state)
    (state : σ) (tasks : List Task) :
    performAll access state tasks = performAll access' state tasks := by
  induction tasks generalizing state with
  | nil => rfl
  | cons task tasks ih => simp only [performAll, same, ih]

theorem runStages_congr
    (same : ∀ state (task : Task), task.perform access state = task.perform access' state)
    (settings : SchemaSettings) (m : Model) (stages : List Stage) (summary : Summary) (state : σ) :
    runStages access settings m stages summary state =
      runStages access' settings m stages summary state := by
  induction stages generalizing summary state with
  | nil => rfl
  | cons stage stages ih => simp only [runStages, Stage.run, performAll_congr same, ih]

/-- To have no client is to find nothing and to create nothing. -/
theorem Model.deploy_offline (m : Model) (settings : SchemaSettings) (state : σ) :
    m.deploy none settings true state = m.deploy (some Client.vacant) settings true state := by
  have same : ∀ state (task : Task),
      task.perform (.offline : Access σ) state = task.perform (.readOnly Client.vacant) state := by
    intro state task
    cases task with
    | settled item log => rfl
    | converge target => rfl
  exact runStages_congr same settings m Stage.all (.start m.diagnostics true) state

end

/-! ## What a summary tells -/

/-- What the summary of a run tells about its model: each report has one item for each object in the
order of the model, an item has an identifier exactly if its object is there, the registry knows the
last identifier of each name and nothing else, the counts add up, and a success is a run in which
nothing failed. -/
structure Summary.Faithful (m : Model) (settings : SchemaSettings) (summary : Summary) : Prop where
  optionSets : List.Forall₂
    (fun enum item => item.name =
      if item.outcome = .failed then enum.name else settings.naming.optionSetName enum.name)
    m.enums.values summary.optionSets.items
  tables : List.Forall₂ (fun t item => item.name = t.schemaName)
    m.tables.values summary.tables.items
  relationships : List.Forall₂ (fun r item => item.name = r.schemaName)
    (m.relationships ++ m.userRelationships) summary.relationships.items
  kinds : summary.reports.map Report.kind = [.optionSet, .table, .relationship]
  identifiers : ∀ report ∈ summary.reports, ∀ item ∈ report.items,
    (item.identifier.isSome = true ↔ item.outcome = .created ∨ item.outcome = .existing)
  registry : ∀ report ∈ summary.reports, ∀ name id,
    ((summary.registry.store report.kind).get? name = some id ↔
      LastIdentified report.items name id)
  counts : ∀ report ∈ summary.reports,
    report.declared = report.created + report.existing + report.failed
  success : summary.isSuccess = true ↔
    ∀ report ∈ summary.reports, ∀ item ∈ report.items, item.outcome ≠ .failed

section

variable {settings : SchemaSettings} {m : Model} {items : List Item}

theorem names_of_optionSetTasks
    (reported : List.Forall₂ Task.Reported (optionSetTasks settings m) items) :
    List.Forall₂ (fun enum item => item.name =
        if item.outcome = .failed then enum.name else settings.naming.optionSetName enum.name)
      m.enums.values items := by
  rw [optionSetTasks_eq, List.forall₂_map_left_iff] at reported
  refine reported.imp fun enum item reported => ?_
  cases reported with
  | converge reported => exact reported.name

theorem names_of_tableTasks {ids : OrderedMap String}
    (reported : List.Forall₂ Task.Reported (tableTasks settings ids m) items) :
    List.Forall₂ (fun t item => item.name = t.schemaName) m.tables.values items := by
  rw [tableTasks_eq, List.forall₂_map_left_iff] at reported
  refine reported.imp fun t item reported => ?_
  unfold Task.ofTable at reported
  split at reported
  · cases reported
    rfl
  · cases reported with
    | converge reported => exact reported.name.trans (ite_self _)

theorem names_of_relationshipTasks {before : List String} {rs : List Relationship}
    (reported : List.Forall₂ Task.Reported (relationshipTasks settings before rs) items) :
    List.Forall₂ (fun r item => item.name = r.schemaName) rs items := by
  induction rs generalizing before items with
  | nil =>
      cases reported
      exact .nil
  | cons r rest ih =>
      rw [relationshipTasks_cons] at reported
      split at reported
      · cases reported with
        | cons first later =>
            cases first
            exact .cons rfl (ih later)
      · cases reported with
        | cons first later =>
            cases first with
            | converge first => exact .cons (first.name.trans (ite_self _)) (ih later)

/-- In a stage, an item has an identifier exactly if its object is there. -/
theorem identifiers_of_stage {stage : Stage} {ids : OrderedMap String}
    (reported : List.Forall₂ Task.Reported (stage.tasks settings ids m) items) :
    ∀ item ∈ items,
      (item.identifier.isSome = true ↔ item.outcome = .created ∨ item.outcome = .existing) := by
  intro item member
  have fitted : ∀ task ∈ stage.tasks settings ids m, task.Fits stage.kind :=
    fun task member => Stage.fits member
  obtain ⟨task, among, here⟩ := exists_left_of_forall₂ reported item member
  exact here.identifier (fitted task among)

/-- The items that tasks come to make a faithful summary. -/
theorem Summary.faithful_ofItems {optionSets tables relationships userRelationships : List Item}
    (dryRun : Bool)
    (first : List.Forall₂ Task.Reported (optionSetTasks settings m) optionSets)
    (second : List.Forall₂ Task.Reported
      (tableTasks settings (Registry.identifiersOf optionSets) m) tables)
    (third : List.Forall₂ Task.Reported (relationshipTasks settings [] m.relationships)
      relationships)
    (fourth : List.Forall₂ Task.Reported (relationshipTasks settings [] m.userRelationships)
      userRelationships) :
    (Summary.ofItems m.diagnostics dryRun optionSets tables relationships
      userRelationships).Faithful m settings where
  optionSets := names_of_optionSetTasks first
  tables := names_of_tableTasks second
  relationships :=
    List.rel_append (names_of_relationshipTasks third) (names_of_relationshipTasks fourth)
  kinds := rfl
  identifiers := by
    have ofSets := @identifiers_of_stage settings m _ .optionSets .empty first
    have ofTables := @identifiers_of_stage settings m _ .tables _ second
    have ofRelationships := @identifiers_of_stage settings m _ .tableRelationships .empty third
    have ofUsers := @identifiers_of_stage settings m _ .userRelationships .empty fourth
    exact (forall_items_ofItems _ _ _ _ _ _ fun _ item => item.identifier.isSome = true ↔
      item.outcome = .created ∨ item.outcome = .existing).mpr
        ⟨ofSets, ofTables, ofRelationships, ofUsers⟩
  registry := fun report member name id => get?_store_ofItems _ _ _ _ _ _ member
  counts := fun report _ => report.declared_eq
  success := isSuccess_iff

end

/-- **Reports.** A run with any client that answers, or a dry run with none, comes to a summary
that tells of all objects of its model, whatever the calls give and wherever they fail. -/
theorem Model.deploy_faithful {σ : Type} (m : Model) (settings : SchemaSettings) (dryRun : Bool)
    (client : Option (Client σ)) (state : σ) (offered : client = none → dryRun = true)
    (answers : ∀ c ∈ client, c.Answers) :
    ∃ summary, (m.deploy client settings dryRun state).result = .ok summary ∧
      summary.Faithful m settings := by
  cases client with
  | none =>
      cases offered rfl
      obtain ⟨_, _, _, _, result, first, second, third, fourth⟩ :=
        m.reported settings true state Client.answers_vacant
      rw [m.deploy_offline settings state]
      exact ⟨_, result, Summary.faithful_ofItems true first second third fourth⟩
  | some client =>
      obtain ⟨_, _, _, _, result, first, second, third, fourth⟩ :=
        m.reported settings dryRun state (answers client rfl)
      exact ⟨_, result, Summary.faithful_ofItems dryRun first second third fourth⟩

/-- A run that is refused everything, of a source with objects of all kinds. -/
theorem Model.deploy_faithful_vacant :
    ((some Client.vacant : Option (Client Unit)) = none → false = true) ∧
      (∀ c ∈ (some Client.vacant : Option (Client Unit)), c.Answers) ∧
      ∃ m, Model.ofText {} false choiceAndUser = .ok m ∧
        ∃ summary, (m.deploy (some (Client.vacant (σ := Unit))) {} false ()).result = .ok summary ∧
          summary.Faithful m {} := by
  have offered : (some Client.vacant : Option (Client Unit)) = none → false = true := nofun
  have answers : ∀ c ∈ (some Client.vacant : Option (Client Unit)), c.Answers := by
    intro c member
    cases member
    exact Client.answers_vacant
  obtain ⟨m, read⟩ := exists_ofText_choiceAndUser
  exact ⟨offered, answers, m, read,
    m.deploy_faithful {} false (some Client.vacant) () offered answers⟩

end ErdDeploy
