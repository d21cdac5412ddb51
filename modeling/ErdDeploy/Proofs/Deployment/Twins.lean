import ErdDeploy.Proofs.Data.Lists
import ErdDeploy.Proofs.Deployment.Fates

/-!
Tasks of two runs of one model.

The tasks of a stage are the same in every run, except that the payloads of tables
depend on the option sets that a run knows. `Task.Twin` relates the tasks of two runs
by what may differ between the payloads of tables, and `Stage.twins` says that it is
enough to look at those.
-/

namespace ErdDeploy

section

variable {alike : TablePayload → TablePayload → Prop}

/-- Payloads that differ at most as payloads of one table may. -/
inductive Payload.Twin (alike : TablePayload → TablePayload → Prop) : Payload → Payload → Prop
  | optionSet (payload : OptionSetPayload) : Twin alike (.optionSet payload) (.optionSet payload)
  | relationship (payload : RelationshipPayload) :
      Twin alike (.relationship payload) (.relationship payload)
  | table {payload payload' : TablePayload} : payload'.schemaName = payload.schemaName →
      alike payload payload' → Twin alike (.table payload) (.table payload')

/-- Targets that are the same but for their payloads. -/
structure Target.Twin (alike : TablePayload → TablePayload → Prop) (target target' : Target) :
    Prop where
  kind : target'.kind = target.kind
  label : target'.label = target.label
  name : target'.name = target.name
  plan : (∃ missing, target.plan = .error missing ∧ target'.plan = .error missing) ∨
    ∃ payload warnings payload' warnings', target.plan = .ok (payload, warnings) ∧
      target'.plan = .ok (payload', warnings') ∧ payload.Twin alike payload'

namespace Target.Twin

variable {target target' : Target}

theorem plan_error (twin : target.Twin alike target') {missing : MissingKey}
    (plan : target.plan = .error missing) : target'.plan = .error missing := by
  rcases twin.plan with ⟨other, plan₁, plan₂⟩ | ⟨_, _, _, _, plan₁, -, -⟩
  · rw [plan] at plan₁
    cases plan₁
    exact plan₂
  · rw [plan] at plan₁
    cases plan₁

theorem plan_ok (twin : target.Twin alike target') {payload : Payload}
    {warnings : List LogEntry} (plan : target.plan = .ok (payload, warnings)) :
    ∃ payload' warnings', target'.plan = .ok (payload', warnings') ∧
      payload.Twin alike payload' := by
  rcases twin.plan with ⟨other, plan₁, -⟩ | ⟨_, _, payload', warnings', plan₁, plan₂, same⟩
  · rw [plan] at plan₁
    cases plan₁
  · rw [plan] at plan₁
    cases plan₁
    exact ⟨payload', warnings', plan₂, same⟩

end Target.Twin

/-- Tasks that are the same but for their payloads. -/
inductive Task.Twin (alike : TablePayload → TablePayload → Prop) : Task → Task → Prop
  | settled (item : Item) (log : List LogEntry) : Twin alike (.settled item log) (.settled item log)
  | converge {target target' : Target} :
      target.Twin alike target' → Twin alike (.converge target) (.converge target')

theorem Task.Twin.address_eq {task task' : Task} (twin : task.Twin alike task') :
    task'.address = task.address := by
  cases twin with
  | settled item log => rfl
  | converge twin => rw [address, address, twin.kind, twin.name]

/-- Where no tables are dealt with, every task is its own twin. -/
theorem Task.Fits.twin {task : Task} {kind : ObjectKind} (other : kind ≠ .table)
    (fits : task.Fits kind) : task.Twin alike task := by
  cases task with
  | settled item log => exact .settled item log
  | converge target =>
      refine .converge ⟨rfl, rfl, rfl, ?_⟩
      cases plan : target.plan with
      | error missing => exact Or.inl ⟨missing, rfl, rfl⟩
      | ok planned =>
          obtain ⟨payload, warnings⟩ := planned
          refine Or.inr ⟨payload, warnings, payload, warnings, rfl, rfl, ?_⟩
          have sameKind := (fits.2 payload warnings plan).1
          cases payload with
          | optionSet payload => exact .optionSet payload
          | relationship payload => exact .relationship payload
          | table payload => exact absurd sameKind.symm other

variable {settings : SchemaSettings} {ids ids' : OrderedMap String}

theorem Task.twin_ofTable {t : Table}
    (agree : t.isReserved = false → ∀ key, t.displayField = .ok key →
      alike (t.payload settings ids key) (t.payload settings ids' key)) :
    (Task.ofTable settings ids t).Twin alike (Task.ofTable settings ids' t) := by
  unfold Task.ofTable
  split
  · exact .settled _ _
  · next free =>
    refine .converge ⟨rfl, rfl, rfl, ?_⟩
    simp only [Target.ofTable, TablePayload.ofTable_eq]
    cases display : t.displayField with
    | error missing => exact Or.inl ⟨missing, rfl, rfl⟩
    | ok key =>
        exact Or.inr ⟨_, _, _, _, rfl, rfl,
          .table rfl (agree (by simpa using free) key display)⟩

/-- The tasks of a stage in two runs are twins if the payloads of the tables to be created are. -/
theorem Stage.twins {m : Model} (stage : Stage)
    (agree : ∀ t ∈ m.creatableTables, ∀ key, t.displayField = .ok key →
      alike (t.payload settings ids key) (t.payload settings ids' key)) :
    List.Forall₂ (Task.Twin alike) (stage.tasks settings ids m) (stage.tasks settings ids' m) := by
  have ownTwins : ∀ (tasks : List Task) (kind : ObjectKind), kind ≠ .table →
      (∀ task ∈ tasks, task.Fits kind) → List.Forall₂ (Task.Twin alike) tasks tasks :=
    fun tasks kind other fits =>
      List.forall₂_same.mpr fun task member => (fits task member).twin other
  cases stage with
  | optionSets =>
      exact ownTwins _ .optionSet (by decide)
        fun task member => @Stage.fits .optionSets settings .empty m task member
  | tables =>
      rw [tasks, tasks, tableTasks_eq, tableTasks_eq, List.forall₂_map_left_iff,
        List.forall₂_map_right_iff]
      refine List.forall₂_same.mpr fun t member => Task.twin_ofTable fun free => ?_
      exact agree t (List.mem_filter.mpr ⟨member, by rw [free]; rfl⟩)
  | tableRelationships =>
      exact ownTwins _ .relationship (by decide)
        fun task member => fits_of_mem_relationshipTasks member
  | userRelationships =>
      exact ownTwins _ .relationship (by decide)
        fun task member => fits_of_mem_relationshipTasks member

end

end ErdDeploy
