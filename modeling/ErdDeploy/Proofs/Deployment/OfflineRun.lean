import ErdDeploy.Proofs.Deployment.Summaries
import ErdDeploy.Proofs.Deployment.Tasks

/-!
Dry runs without a client.

Such a run asks nobody, so each of its items is told by the task alone (`Task.draft`), and the run
always has a summary (`Model.deploy_without_client`). What fails in it are the mistakes that can
be seen in the model itself: tables that are to be created without a key, and names of
relationships that are declared twice (`Model.drafted_iff`).
-/

namespace ErdDeploy

/-! ## Tasks -/

/-- The item of a task where nothing is looked up and nothing is created. -/
def Task.draft : Task → Item
  | .settled item _ => item
  | .converge target =>
    match target.plan with
    | .error missing => .failed target.label missing.message
    | .ok _ => .skipped target.name "would create"

theorem Task.perform_offline {σ : Type} (state : σ) (task : Task) :
    ∃ log, task.perform .offline state = ⟨.ok task.draft, log, state⟩ := by
  cases task with
  | settled item log => exact ⟨log, rfl⟩
  | converge target =>
      rcases planned : target.plan with missing | ⟨payload, warnings⟩
      · simp [perform, Target.bringAbout, draft, planned, Target.fail]
      · simp [perform, Target.bringAbout, draft, planned]

theorem performAll_offline {σ : Type} (state : σ) (tasks : List Task) :
    ∃ log, performAll .offline state tasks = ⟨.ok (tasks.map Task.draft), log, state⟩ := by
  induction tasks with
  | nil => exact ⟨[], rfl⟩
  | cons task tasks ih =>
      obtain ⟨first, performed⟩ := task.perform_offline state
      obtain ⟨later, rest⟩ := ih
      refine ⟨first ++ later, ?_⟩
      simp only [performAll, performed, rest, Except.map, List.map_cons]

/-- What is looked up fails exactly if it cannot be planned. -/
theorem Task.draft_converge_iff {target : Target} :
    (Task.converge target).draft.outcome ≠ .failed ↔ target.IsPlanned := by
  rcases planned : target.plan with missing | made
  · simp [draft, planned, Target.IsPlanned, Item.failed]
  · have known : target.IsPlanned := ⟨made, planned⟩
    simp [draft, planned, Item.skipped, known]

/-! ## Runs -/

theorem runStages_offline {σ : Type} (settings : SchemaSettings) (m : Model) (stage : Stage)
    (stages : List Stage) (summary : Summary) (state : σ) :
    (runStages .offline settings m (stage :: stages) summary state).result =
      (runStages .offline settings m stages
        (summary.withStage (.ofItems stage.kind ((stage.tasks settings
          summary.registry.optionSets m).map Task.draft))) state).result := by
  obtain ⟨log, performed⟩ :=
    performAll_offline state (stage.tasks settings summary.registry.optionSets m)
  simp only [runStages, Stage.run, performed, Except.map]

/-- The items of a model where nothing is looked up and nothing is created. -/
def Model.drafted (m : Model) (settings : SchemaSettings) : Summary :=
  let optionSets := (optionSetTasks settings m).map Task.draft
  .ofItems m.diagnostics true optionSets
    ((tableTasks settings (Registry.identifiersOf optionSets) m).map Task.draft)
    ((relationshipTasks settings [] m.relationships).map Task.draft)
    ((relationshipTasks settings [] m.userRelationships).map Task.draft)

/-- A dry run without a client has a summary. -/
theorem Model.deploy_without_client {σ : Type} (m : Model) (settings : SchemaSettings)
    (state : σ) : (m.deploy none settings true state).result = .ok (m.drafted settings) := by
  have started : (m.deploy none settings true state).result =
      (runStages .offline settings m Stage.all (.start m.diagnostics true) state).result := rfl
  rw [started, Stage.all, runStages_offline, runStages_offline, runStages_offline,
    runStages_offline]
  simp only [runStages, Stage.kind, Stage.tasks, Summary.registry_optionSets_start]
  rfl

/-! ## Mistakes of a model -/

/-- Nothing fails in a stage of relationships as long as no name comes twice. -/
theorem drafted_relationships_iff (settings : SchemaSettings) (before : List String)
    (rs : List Relationship) :
    (∀ task ∈ relationshipTasks settings before rs, task.draft.outcome ≠ .failed) ↔
      (rs.map Relationship.schemaName).Nodup ∧
        ∀ name ∈ rs.map Relationship.schemaName, name ∉ before := by
  -- Each relationship adds its name to those before, so these are left open.
  induction rs generalizing before with
  | nil => simp [relationshipTasks]
  | cons r rest ih =>
      rw [relationshipTasks_cons, List.map_cons, List.nodup_cons, List.forall_mem_cons]
      by_cases repeated : before.contains r.schemaName = true
      · have failed : (repeatedTask r).draft.outcome = .failed := rfl
        have seen : r.schemaName ∈ before := List.contains_iff_mem.mp repeated
        rw [if_pos repeated, List.forall_mem_cons]
        exact iff_of_false (fun fine => fine.1 failed) (fun fresh => fresh.2.1 seen)
      · have fine : (Task.converge (.ofRelationship settings r)).draft.outcome ≠ .failed :=
          Task.draft_converge_iff.mpr ⟨_, rfl⟩
        have unseen : r.schemaName ∉ before := fun seen => repeated (List.contains_iff_mem.mpr seen)
        rw [if_neg repeated, List.forall_mem_cons, ih]
        simp only [List.mem_cons, not_or]
        constructor
        · rintro ⟨-, distinct, apart⟩
          exact ⟨⟨fun again => (apart _ again).1 rfl, distinct⟩, unseen,
            fun name member => (apart name member).2⟩
        · rintro ⟨⟨once, distinct⟩, -, apart⟩
          exact ⟨fine, distinct, fun name member =>
            ⟨fun same => once (same ▸ member), apart name member⟩⟩

/-- A dry run foresees no mistake in a model: every table that is to be created has a key, and no
name of a relationship is declared twice in one stage. -/
structure Model.IsDraftable (m : Model) : Prop where
  keyed : ∀ t ∈ m.creatableTables, ∃ key, t.displayField = .ok key
  relationships : (m.relationships.map Relationship.schemaName).Nodup
  userRelationships : (m.userRelationships.map Relationship.schemaName).Nodup

/-- Nothing fails in the stage of tables as long as those that are to be created have keys. -/
theorem drafted_tables_iff (settings : SchemaSettings) (ids : OrderedMap String) (m : Model) :
    (∀ task ∈ tableTasks settings ids m, task.draft.outcome ≠ .failed) ↔
      ∀ t ∈ m.creatableTables, ∃ key, t.displayField = .ok key := by
  rw [tableTasks_eq, List.forall_mem_map, Model.creatableTables]
  simp only [List.mem_filter, and_imp]
  refine forall₂_congr fun t member => ?_
  cases reserved : t.isReserved with
  | true => simp [Task.ofTable, reserved, Task.draft, Table.reservedItem, Item.skipped]
  | false =>
      rw [Task.ofTable, if_neg (by simp [reserved]), Task.draft_converge_iff,
        Target.isPlanned_ofTable]
      simp

/-- What fails in a dry run without a client are the mistakes in the model. -/
theorem Model.drafted_iff {m : Model} {settings : SchemaSettings} :
    (∀ report ∈ (m.drafted settings).reports, ∀ item ∈ report.items, item.outcome ≠ .failed) ↔
      m.IsDraftable := by
  have optionSets : ∀ task ∈ optionSetTasks settings m, task.draft.outcome ≠ .failed := by
    rw [optionSetTasks_eq, List.forall_mem_map]
    exact fun entry member => Task.draft_converge_iff.mpr ⟨_, rfl⟩
  unfold drafted
  rw [Summary.forall_items_ofItems _ _ _ _ _ _ fun _ item => item.outcome ≠ .failed]
  simp only [List.forall_mem_map, drafted_relationships_iff, drafted_tables_iff, List.not_mem_nil,
    not_false_eq_true, implies_true, and_true]
  constructor
  · rintro ⟨-, keyed, relationships, userRelationships⟩
    exact ⟨keyed, relationships, userRelationships⟩
  · rintro ⟨keyed, relationships, userRelationships⟩
    exact ⟨optionSets, keyed, relationships, userRelationships⟩

end ErdDeploy
