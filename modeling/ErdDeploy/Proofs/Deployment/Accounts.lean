import ErdDeploy.Proofs.Data.Lists
import ErdDeploy.Proofs.Deployment.MemoryRun

/-!
What the items of a run say about the remote.

`Task.Accounts` says of the item of a task that it has an identifier exactly if the
object did not fail, and that the object is then stored under this identifier. A
run that creates leaves a remote on which all its items account for their tasks, one
for each object (`Visit.accounts`, `Visit.complete`), and they go on doing so while
objects are added.

Without failures only an object without a plan fails. So a run without failures
leaves exactly what was there and what its model declares (`Visit.mem_names_iff`),
and its registry knows the option sets of all enums (`Visit.contains_optionSets_iff`).
-/

namespace ErdDeploy

open MemoryRemote

/-! ## Items and the store -/

/-- An item accounts for a task on a remote: a settled task has its own item, and any other
either failed or is stored under the identifier of the item. -/
def Task.Accounts (remote : MemoryRemote) : Task → Item → Prop
  | .settled kept _, item => item = kept
  | .converge target, item =>
    item.outcome = .failed ∧ item.identifier = none ∨
      (item.outcome = .created ∨ item.outcome = .existing) ∧ item.name = target.name ∧
        ∃ id, item.identifier = some id ∧
          (remote.store target.kind).get? target.name = some (.text id)

/-- Items go on accounting for tasks as long as what is stored stays stored. -/
theorem Task.Accounts.grow {task : Task} {item : Item} {remote after : MemoryRemote}
    (retains : ∀ {kind name value},
      (remote.store kind).get? name = some value → (after.store kind).get? name = some value)
    (accounts : task.Accounts remote item) : task.Accounts after item := by
  cases task with
  | settled kept log => exact accounts
  | converge target =>
      rcases accounts with failed | ⟨outcome, name, id, known, stored⟩
      · exact Or.inl failed
      · exact Or.inr ⟨outcome, name, id, known, retains stored⟩

/-- A run that creates ends an object with an item that accounts for it. -/
theorem Task.Fares.accounts {task : Task} {item : Item} {remote after : MemoryRemote}
    {exchanges : List Exchange} (fares : task.Fares false remote item exchanges after) :
    task.Accounts after item := by
  cases fares with
  | settled item log => rfl
  | converge fares =>
      cases fares with
      | lookupFailed _ _ => exact Or.inl ⟨rfl, rfl⟩
      | found _ stored alike =>
          refine Or.inr ⟨Or.inr rfl, rfl, _, rfl, ?_⟩
          rw [alike.store, stored]
      | unplanned _ _ _ => exact Or.inl ⟨rfl, rfl⟩
      | skipped _ _ dry _ => cases dry
      | refused _ _ _ _ _ => exact Or.inl ⟨rfl, rfl⟩
      | created _ _ _ _ _ _ gained =>
          refine Or.inr ⟨Or.inl rfl, rfl, _, rfl, ?_⟩
          rw [gained.store, OrderedMap.get?_insert_self]

theorem Passage.accounts {tasks : List Task} {items : List Item} {remote after : MemoryRemote}
    {exchanges : List Exchange} (passage : Passage false remote tasks items exchanges after) :
    List.Forall₂ (Task.Accounts after) tasks items := by
  induction passage with
  | done remote => exact .nil
  | next first rest ih => exact .cons (first.accounts.grow rest.growth.retains) ih

/-- Which option sets are known is of no matter for what an item accounts for. -/
theorem accounts_tableTasks {settings : SchemaSettings} {ids : OrderedMap String} {m : Model}
    {items : List Item} {remote : MemoryRemote} (ids' : OrderedMap String)
    (accounts : List.Forall₂ (Task.Accounts remote) (tableTasks settings ids m) items) :
    List.Forall₂ (Task.Accounts remote) (tableTasks settings ids' m) items := by
  rw [tableTasks_eq, List.forall₂_map_left_iff] at accounts ⊢
  refine accounts.imp fun table item accounts => ?_
  unfold Task.ofTable at accounts ⊢
  split
  · next reserved => rwa [if_pos reserved] at accounts
  · next free => rwa [if_neg free] at accounts

/-! ## Runs without failures -/

/-- Without failures an object with a plan does not fail. -/
theorem Target.Fares.unfailed {target : Target} {item : Item} {remote after : MemoryRemote}
    {exchanges : List Exchange} (fine : remote.failures = []) (planned : target.IsPlanned)
    (fares : target.Fares false remote item exchanges after) : item.outcome ≠ .failed := by
  cases fares with
  | lookupFailed failing _ =>
      rw [fine] at failing
      cases failing
  | found _ _ _ => simp [Item.existing]
  | unplanned _ plan _ =>
      obtain ⟨made, same⟩ := planned
      rw [plan] at same
      cases same
  | skipped _ _ dry _ => cases dry
  | refused _ _ _ failing _ =>
      rw [fine] at failing
      cases failing
  | created _ _ _ _ _ _ _ => simp [Item.created]

theorem Passage.unfailed {tasks : List Task} {items : List Item} {remote after : MemoryRemote}
    {exchanges : List Exchange} (fine : remote.failures = [])
    (planned : ∀ task ∈ tasks, ∃ target, task = .converge target ∧ target.IsPlanned)
    (passage : Passage false remote tasks items exchanges after) :
    ∀ item ∈ items, item.outcome ≠ .failed := by
  induction passage with
  | done remote => simp
  | next fares _ ih =>
      intro other member
      rcases List.mem_cons.mp member with rfl | later
      · obtain ⟨target, rfl, plan⟩ := planned _ List.mem_cons_self
        cases fares with
        | converge fares => exact fares.unfailed fine plan
      · exact ih (fares.growth.failures.trans fine)
          (fun task among => planned task (List.mem_cons_of_mem _ among)) other later

/-- Without failures all that is planned is stored in the end. -/
theorem Passage.stored {tasks : List Task} {items : List Item} {remote after : MemoryRemote}
    {exchanges : List Exchange} {target : Target} (fine : remote.failures = [])
    (passage : Passage false remote tasks items exchanges after)
    (member : Task.converge target ∈ tasks) (planned : target.IsPlanned) :
    target.name ∈ (after.store target.kind).names := by
  have never : ∀ call, remote.failures.lookup call = none := by
    intro call
    rw [fine]
    rfl
  exact (passage.mem_names_iff (never _)).mpr
    (Or.inr ⟨rfl, never _, .converge target, member, planned, rfl, rfl⟩)

/-! ## The registry -/

section

variable {settings : SchemaSettings} {m : Model} {remote : MemoryRemote} {items : List Item}

/-- The registry knows no option sets but those of the enums. -/
theorem exists_enum_of_contains
    (accounts : List.Forall₂ (Task.Accounts remote) (optionSetTasks settings m) items)
    {name : String} (known : (Registry.identifiersOf items).contains name = true) :
    ∃ enum ∈ m.enumNames, settings.naming.optionSetName enum = name := by
  obtain ⟨item, member, rfl, id, identifier⟩ := Registry.contains_identifiersOf.mp known
  obtain ⟨task, among, account⟩ := exists_left_of_forall₂ accounts item member
  rw [optionSetTasks_eq] at among
  obtain ⟨enum, declared, rfl⟩ := List.mem_map.mp among
  refine ⟨enum.name, List.mem_map_of_mem declared, ?_⟩
  rcases account with ⟨-, unknown⟩ | ⟨-, name, -⟩
  · rw [unknown] at identifier
    cases identifier
  · exact name.symm

/-- The registry knows the option sets of all enums, if none of them failed. -/
theorem contains_optionSetName
    (accounts : List.Forall₂ (Task.Accounts remote) (optionSetTasks settings m) items)
    (fine : ∀ item ∈ items, item.outcome ≠ .failed) {enum : String}
    (declared : enum ∈ m.enumNames) :
    (Registry.identifiersOf items).contains (settings.naming.optionSetName enum) = true := by
  obtain ⟨enum, member, rfl⟩ := List.mem_map.mp declared
  have among : Task.converge (.ofEnum settings enum) ∈ optionSetTasks settings m := by
    rw [optionSetTasks_eq]
    exact List.mem_map.mpr ⟨enum, member, rfl⟩
  obtain ⟨item, there, account⟩ := exists_right_of_forall₂ accounts _ among
  rcases account with ⟨failed, -⟩ | ⟨-, name, id, known, -⟩
  · exact absurd failed (fine item there)
  · exact Registry.contains_identifiersOf.mpr ⟨item, there, name, id, known⟩

end

/-! ## Runs -/

/-- What is left after a run, with no call set up to fail any more. -/
def Model.mended (m : Model) (settings : SchemaSettings) (remote : MemoryRemote) : MemoryRemote :=
  (m.deploy (some client) settings false remote).state.withFailures []

/-- The items of a run account for its tasks on the remote that the run leaves. -/
theorem Visit.accounts {settings : SchemaSettings} {m : Model} {remote after : MemoryRemote}
    {summary : Summary} {exchanges : List Exchange}
    (visit : Visit false settings m remote summary exchanges after) :
    ∃ optionSets tables relationships userRelationships,
      summary = .ofItems m.diagnostics false optionSets tables relationships userRelationships ∧
      List.Forall₂ (Task.Accounts after) (optionSetTasks settings m) optionSets ∧
      (∀ ids, List.Forall₂ (Task.Accounts after) (tableTasks settings ids m) tables) ∧
      List.Forall₂ (Task.Accounts after) (relationshipTasks settings [] m.relationships)
        relationships ∧
      List.Forall₂ (Task.Accounts after) (relationshipTasks settings [] m.userRelationships)
        userRelationships := by
  obtain ⟨first, second, third, fourth⟩ := visit
  have fromRelationships := fourth.growth
  have fromTables := composable_growth.trans third.growth fromRelationships
  have fromOptionSets := composable_growth.trans second.growth fromTables
  have ofTables := second.accounts.imp fun _ _ accounts => accounts.grow fromTables.retains
  refine ⟨_, _, _, _, rfl, ?_, fun ids => accounts_tableTasks ids ofTables, ?_, fourth.accounts⟩
  · exact first.accounts.imp fun _ _ accounts => accounts.grow fromOptionSets.retains
  · exact third.accounts.imp fun _ _ accounts => accounts.grow fromRelationships.retains

/-- The summary has one item for each object of the model. -/
structure Summary.Complete (m : Model) (summary : Summary) : Prop where
  optionSets : summary.optionSets.items.length = m.enums.size
  tables : summary.tables.items.length = m.tables.size
  relationships : summary.relationships.items.length =
    m.relationships.length + m.userRelationships.length

section

variable {settings : SchemaSettings} {m : Model} {remote after : MemoryRemote}
  {summary : Summary} {exchanges : List Exchange} {kind : ObjectKind} {name : String}

theorem Visit.complete (visit : Visit false settings m remote summary exchanges after) :
    summary.Complete m := by
  obtain ⟨optionSets, tables, relationships, userRelationships, rfl, first, second, third,
    fourth⟩ := visit.accounts
  have ofSets := first.length_eq
  have ofTables := (second .empty).length_eq
  rw [optionSetTasks_eq, List.length_map, OrderedMap.values, List.length_map] at ofSets
  rw [tableTasks_eq, List.length_map, OrderedMap.values, List.length_map] at ofTables
  refine ⟨ofSets.symm, ofTables.symm, ?_⟩
  rw [Summary.items_relationships_ofItems, List.length_append, ← third.length_eq,
    ← fourth.length_eq, length_relationshipTasks, length_relationshipTasks]

/-- Without failures all that is declared is stored in the end. -/
theorem Visit.stored (fine : remote.failures = [])
    (visit : Visit false settings m remote summary exchanges after)
    (declared : m.Declares settings kind name) : name ∈ (after.store kind).names := by
  obtain ⟨first, second, third, fourth⟩ := visit
  have fine₁ := first.growth.failures.trans fine
  have fine₂ := second.growth.failures.trans fine₁
  have fine₃ := third.growth.failures.trans fine₂
  obtain ⟨stage, ids, target, member, planned, rfl, rfl⟩ := declared
  have keeps : ∀ {before exchanges},
      MemoryRemote.Growth before exchanges after → target.name ∈ (before.store target.kind).names →
        target.name ∈ (after.store target.kind).names := by
    intro before exchanges growth member
    rw [growth.names]
    exact List.mem_append_left _ member
  have fromRelationships := fourth.growth
  have fromTables := composable_growth.trans third.growth fromRelationships
  have fromOptionSets := composable_growth.trans second.growth fromTables
  cases stage with
  | optionSets => exact keeps fromOptionSets (first.stored fine member planned)
  | tables =>
      obtain ⟨other, among, planned', kind, name⟩ :=
        Target.exists_of_mem_tableTasks _ member planned
      have stored := second.stored fine₁ among planned'
      rw [kind, name] at stored
      exact keeps fromTables stored
  | tableRelationships => exact keeps fromRelationships (third.stored fine₂ member planned)
  | userRelationships => exact fourth.stored fine₃ member planned

/-- A run without failures leaves what was there and what is declared, and nothing else. -/
theorem Visit.mem_names_iff (fine : remote.failures = [])
    (visit : Visit false settings m remote summary exchanges after) :
    name ∈ (after.store kind).names ↔
      name ∈ (remote.store kind).names ∨ m.Declares settings kind name := by
  constructor
  · intro member
    rw [visit.growth.names, List.mem_append] at member
    rcases member with before | created
    · exact Or.inl before
    · exact Or.inr (visit.declared created)
  · rintro (before | declared)
    · rw [visit.growth.names]
      exact List.mem_append_left _ before
    · exact visit.stored fine declared

/-- Without failures all option sets come about. -/
theorem Visit.optionSets_unfailed (fine : remote.failures = [])
    (visit : Visit false settings m remote summary exchanges after) :
    ∀ item ∈ summary.optionSets.items, item.outcome ≠ .failed := by
  obtain ⟨first, second, third, fourth⟩ := visit
  refine first.unfailed fine fun task member => ?_
  rw [optionSetTasks_eq, List.mem_map] at member
  obtain ⟨entry, -, rfl⟩ := member
  exact ⟨_, rfl, _, rfl⟩

/-- If no option set failed, the run knows exactly those of the enums. -/
theorem Visit.contains_optionSets_iff
    (visit : Visit false settings m remote summary exchanges after)
    (fine : ∀ item ∈ summary.optionSets.items, item.outcome ≠ .failed) :
    summary.registry.optionSets.contains name = true ↔
      ∃ enum ∈ m.enumNames, settings.naming.optionSetName enum = name := by
  obtain ⟨optionSets, tables, relationships, userRelationships, rfl, accounts, -⟩ :=
    visit.accounts
  rw [Summary.registry_optionSets_ofItems]
  constructor
  · exact exists_enum_of_contains accounts
  · rintro ⟨enum, declared, rfl⟩
    exact contains_optionSetName accounts fine declared

end

end ErdDeploy
