import ErdDeploy.Proofs.Deployment.MemoryRun

/-!
Option sets and tables that share a name.

A model keeps its enums and tables apart by the names they are declared under, but
the remote knows them by names that are derived from these, in lower case and with
the namespace in front. Two declarations can come to one name there, and neither
the stage of option sets nor that of tables looks for this: the second one finds
what the first one has created, and is reported as existing
(`Model.not_findsNothing`).

`Model.shared_names` says when it happens. An option set or a table is reported as
existing exactly if its lookup is answered and the name was stored before the run,
or an earlier declaration of its own stage brings the name about. Items of one name
then stand for one object, which the last part says: whatever identifier an item
has, the remote stores it under the name of the item.
-/

namespace ErdDeploy

open MemoryRemote

/-! ## Declarations that find each other -/

/-- A run on an empty remote reports no option set and no table as existing. -/
def Model.FindsNothing (m : Model) (settings : SchemaSettings) (dryRun : Bool) : Prop :=
  ∀ summary, (m.deploy (some client) settings dryRun empty).result = .ok summary →
    ∀ item ∈ summary.optionSets.items ++ summary.tables.items, item.outcome ≠ .existing

/-- Two enums, and two tables, that differ in case only are taken for one. -/
theorem Model.not_findsNothing :
    ¬ ∀ (text : String) (settings : SchemaSettings) (m : Model) (dryRun : Bool),
      Model.ofText settings.naming false text = .ok m → m.FindsNothing settings dryRun := by
  intro nothing
  obtain ⟨text, taken⟩ : ∃ text, ((Model.ofText {} false text).toOption.bind fun m =>
      (m.deploy (some client) {} false empty).result.toOption.map fun summary =>
        (summary.optionSets.items ++ summary.tables.items).map Item.outcome) =
      some [.created, .existing, .created, .existing] := by
    refine ⟨"Enum S \x7b\nA\n\x7d\nEnum s \x7b\nB\n\x7d\n" ++
      "Table T \x7b\nid GUID [pk]\n\x7d\nTable t \x7b\nid GUID [pk]\nx Int\n\x7d", ?_⟩
    decide +kernel
  obtain ⟨m, read, taken⟩ := exists_of_toOption_bind taken
  obtain ⟨summary, ran, outcomes⟩ := exists_of_toOption_map taken
  have found : Outcome.existing ∈
      (summary.optionSets.items ++ summary.tables.items).map Item.outcome := by
    rw [outcomes]
    decide
  obtain ⟨item, member, existing⟩ := List.mem_map.mp found
  exact nothing text {} m false read summary ran item member existing

/-! ## One task -/

section

variable {dryRun : Bool} {remote after : MemoryRemote} {exchanges : List Exchange}

/-- A target is reported as existing exactly if its lookup is answered and it is stored. -/
theorem Target.Fares.existing_iff {target : Target} {item : Item}
    (fares : target.Fares dryRun remote item exchanges after) :
    item.outcome = .existing ↔ remote.failures.lookup (.find target.name) = none ∧
      target.name ∈ (remote.store target.kind).names := by
  have lost : target.Missed remote → target.name ∉ (remote.store target.kind).names :=
    fun missed => OrderedMap.get?_eq_none_iff.mp missed.absent
  cases fares with
  | lookupFailed failing _ => simp [Item.failed, failing]
  | found answered stored _ =>
      simp [Item.existing, answered, OrderedMap.mem_names_of_get? stored]
  | unplanned missed _ _ => simp [Item.failed, lost missed]
  | skipped missed _ _ _ => simp [Item.skipped, lost missed]
  | refused missed _ _ _ _ => simp [Item.failed, lost missed]
  | created missed _ _ _ _ _ _ => simp [Item.created, lost missed]

/-- Whatever identifier an item has, it is stored under the name of the item. -/
theorem Task.Fares.identified {task : Task} {item : Item} {kind : ObjectKind} {id : String}
    (fits : task.Fits kind) (fares : task.Fares dryRun remote item exchanges after)
    (known : item.identifier = some id) :
    (after.store kind).get? item.name = some (.text id) := by
  cases fares with
  | settled item log =>
      rw [fits.2] at known
      cases known
  | converge fares =>
      obtain ⟨sameKind, -⟩ := fits
      subst sameKind
      cases fares with
      | lookupFailed _ _ => cases known
      | found _ stored alike =>
          cases known
          rw [alike.store]
          exact stored
      | unplanned _ _ _ => cases known
      | skipped _ _ _ _ => cases known
      | refused _ _ _ _ _ => cases known
      | created _ _ _ _ _ _ gained =>
          cases known
          rw [gained.store]
          exact OrderedMap.get?_insert_self _ _ _

/-! ## One stage -/

/-- The lookup of a name is answered in a run, and finds what was stored before or what the run
has created, if it has and could. -/
def MemoryRemote.Finds (remote : MemoryRemote) (dryRun : Bool) (kind : ObjectKind)
    (name : String) (brought : Prop) : Prop :=
  remote.failures.lookup (.find name) = none ∧
    (name ∈ (remote.store kind).names ∨
      dryRun = false ∧ remote.failures.lookup (.create name) = none ∧ brought)

theorem MemoryRemote.finds_congr {kind : ObjectKind} {name : String} {brought brought' : Prop}
    (same : brought ↔ brought') :
    remote.Finds dryRun kind name brought ↔ remote.Finds dryRun kind name brought' := by
  unfold Finds
  rw [same]

/-- A target is reported as existing exactly if it is found, after the tasks that come before. -/
theorem Passage.existing_iff {earlier later : List Task} {target : Target} {items : List Item}
    (passage : Passage dryRun remote (earlier ++ .converge target :: later) items exchanges
      after) :
    ∃ item, items[earlier.length]? = some item ∧
      (item.outcome = .existing ↔ remote.Finds dryRun target.kind target.name
        (∃ task ∈ earlier, task.Brings target.kind target.name)) := by
  obtain ⟨item, _, _, _, _, _, _, _, here, before, fares, -⟩ := passage.item_at
  cases fares with
  | converge fares =>
      refine ⟨item, here, ?_⟩
      rw [fares.existing_iff, before.growth.failures]
      exact and_congr_right fun answered => before.mem_names_iff answered

/-- A stage that does not bring a name about has no part in whether it is found. -/
theorem Passage.finds_iff {tasks : List Task} {items : List Item} {kind : ObjectKind}
    {name : String} {brought : Prop} (passage : Passage dryRun remote tasks items exchanges after)
    (untouched : ∀ task ∈ tasks, ¬ task.Brings kind name) :
    after.Finds dryRun kind name brought ↔ remote.Finds dryRun kind name brought := by
  have nowhere : ¬ ∃ task ∈ tasks, task.Brings kind name :=
    fun ⟨task, member, brings⟩ => untouched task member brings
  unfold Finds
  rw [passage.growth.failures]
  refine and_congr_right fun answered => ?_
  rw [passage.mem_names_iff answered, iff_false_intro nowhere, and_false, and_false, or_false]

theorem Passage.identified {tasks : List Task} {items : List Item} {kind : ObjectKind}
    (fits : ∀ task ∈ tasks, task.Fits kind)
    (passage : Passage dryRun remote tasks items exchanges after) :
    ∀ item ∈ items, ∀ id, item.identifier = some id →
      (after.store kind).get? item.name = some (.text id) := by
  induction passage with
  | done remote => simp
  | next fares rest ih =>
      intro item member id known
      rcases List.mem_cons.mp member with rfl | later
      · exact rest.growth.retains (fares.identified (fits _ List.mem_cons_self) known)
      · exact ih (fun task among => fits task (List.mem_cons_of_mem _ among)) item later id known

/-- What the items of a stage know is stored. -/
theorem Passage.stored_of_known {tasks : List Task} {items : List Item} {kind : ObjectKind}
    {name id : String} (fits : ∀ task ∈ tasks, task.Fits kind)
    (passage : Passage dryRun remote tasks items exchanges after)
    (known : (Registry.identifiersOf items).get? name = some id) :
    (after.store kind).get? name = some (.text id) := by
  obtain ⟨before, item, later, rfl, rfl, identified, -⟩ :=
    Registry.get?_identifiersOf_iff.mp known
  have member : item ∈ before ++ item :: later :=
    List.mem_append_right before List.mem_cons_self
  exact passage.identified fits item member id identified

end

/-! ## Runs -/

section

variable {dryRun : Bool} {settings : SchemaSettings} {m : Model} {remote after : MemoryRemote}
  {summary : Summary} {exchanges : List Exchange}

/-- The option set of an enum is reported as existing exactly if it is found. -/
theorem Visit.optionSet_existing_iff {before later : List String} {enum : String}
    (visit : Visit dryRun settings m remote summary exchanges after)
    (declared : m.enumNames = before ++ enum :: later) :
    ∃ item, summary.optionSets.items[before.length]? = some item ∧
      (item.outcome = .existing ↔
        remote.Finds dryRun .optionSet (settings.naming.optionSetName enum)
          (∃ earlier ∈ before,
            settings.naming.optionSetName earlier = settings.naming.optionSetName enum)) := by
  obtain ⟨first, -, -, -⟩ := visit
  obtain ⟨front, back, split, rfl, rest⟩ := List.map_eq_append_iff.mp declared
  obtain ⟨declared, back, rfl, rfl, -⟩ := List.map_eq_cons_iff.mp rest
  rw [optionSetTasks_eq, split, List.map_append, List.map_cons] at first
  obtain ⟨item, here, existing⟩ := first.existing_iff
  rw [List.length_map] at here ⊢
  refine ⟨item, here, existing.trans (finds_congr ?_)⟩
  constructor
  · rintro ⟨_, among, brings⟩
    obtain ⟨other, earlier, rfl⟩ := List.mem_map.mp among
    exact ⟨other.name, List.mem_map_of_mem earlier, Task.brings_ofEnum.mp brings⟩
  · rintro ⟨_, among, same⟩
    obtain ⟨other, earlier, rfl⟩ := List.mem_map.mp among
    exact ⟨_, List.mem_map_of_mem earlier, Task.brings_ofEnum.mpr same⟩

/-- A table is reported as existing exactly if it is to be created and is found. -/
theorem Visit.table_existing_iff {before later : List Table} {table : Table}
    (visit : Visit dryRun settings m remote summary exchanges after)
    (declared : m.tables.values = before ++ table :: later) :
    ∃ item, summary.tables.items[before.length]? = some item ∧
      (item.outcome = .existing ↔ table.isReserved = false ∧
        remote.Finds dryRun .table table.schemaName
          (∃ earlier ∈ before, earlier.isReserved = false ∧
            (∃ key, earlier.displayField = .ok key) ∧
            earlier.schemaName = table.schemaName)) := by
  obtain ⟨first, second, -, -⟩ := visit
  rw [tableTasks_eq, declared, List.map_append, List.map_cons] at second
  cases reserved : table.isReserved with
  | true =>
      rw [Task.ofTable, if_pos reserved] at second
      obtain ⟨item, _, _, _, _, _, _, _, here, -, fares, -⟩ := second.item_at
      cases fares
      rw [List.length_map] at here
      exact ⟨_, here, by simp [Table.reservedItem, Item.skipped]⟩
  | false =>
      rw [Task.ofTable, if_neg (by simp [reserved])] at second
      obtain ⟨item, here, existing⟩ := second.existing_iff
      rw [List.length_map] at here
      -- The stage of option sets, which comes before, leaves tables alone.
      have untouched : ∀ task ∈ optionSetTasks settings m,
          ¬ task.Brings .table table.schemaName := by
        intro task member brings
        rw [optionSetTasks_eq, List.mem_map] at member
        obtain ⟨entry, -, rfl⟩ := member
        cases brings.2.1
      refine ⟨item, here, existing.trans ((first.finds_iff untouched).trans ?_)⟩
      rw [and_iff_right rfl]
      refine finds_congr ⟨?_, ?_⟩
      · rintro ⟨_, among, brings⟩
        obtain ⟨other, earlier, rfl⟩ := List.mem_map.mp among
        exact ⟨other, earlier, Task.brings_ofTable.mp brings⟩
      · rintro ⟨other, earlier, brings⟩
        exact ⟨_, List.mem_map.mpr ⟨other, earlier, rfl⟩, Task.brings_ofTable.mpr brings⟩

/-- Whatever identifier an item has, the remote that is left stores it under the item's name. -/
theorem Visit.identified (visit : Visit dryRun settings m remote summary exchanges after) :
    ∀ report ∈ summary.reports, ∀ item ∈ report.items, ∀ id, item.identifier = some id →
      (after.store report.kind).get? item.name = some (.text id) := by
  obtain ⟨first, second, third, fourth⟩ := visit
  have fromRelationships := fourth.growth
  have fromTables := composable_growth.trans third.growth fromRelationships
  have fromOptionSets := composable_growth.trans second.growth fromTables
  refine (Summary.forall_items_ofItems _ _ _ _ _ _ fun kind item => ∀ id,
    item.identifier = some id → (after.store kind).get? item.name = some (.text id)).mpr
      ⟨?_, ?_, ?_, ?_⟩
  · intro item member id known
    have stored := first.identified
      (fun task among => @Stage.fits .optionSets settings .empty m task among) item member id known
    exact fromOptionSets.retains stored
  · intro item member id known
    have stored := second.identified
      (fun task among => @Stage.fits .tables settings _ m task among) item member id known
    exact fromTables.retains stored
  · intro item member id known
    have stored := third.identified (fun task among => fits_of_mem_relationshipTasks among) item
      member id known
    exact fromRelationships.retains stored
  · exact fourth.identified fun task among => fits_of_mem_relationshipTasks among

/-- An option set that the run knows is stored under the identifier that the run knows. -/
theorem Visit.stored_of_known {name id : String}
    (visit : Visit dryRun settings m remote summary exchanges after)
    (known : summary.registry.optionSets.get? name = some id) :
    (after.store .optionSet).get? name = some (.text id) := by
  obtain ⟨first, second, third, fourth⟩ := visit
  rw [Summary.registry_optionSets_ofItems] at known
  have later := composable_growth.trans second.growth
    (composable_growth.trans third.growth fourth.growth)
  exact later.retains (first.stored_of_known
    (fun task among => @Stage.fits .optionSets settings .empty m task among) known)

end

/-- **Shared names.** In a run on a remote that holds texts, an option set or a table is reported as
existing exactly if its lookup is answered and its name was stored before the run, or the run is not
dry, the creation under the name is not refused, and an earlier enum or table of the model comes to
the same name. Whatever identifier an item has, the remote that is left stores it under the name of
the item, so that items of one name are one object. -/
theorem Model.shared_names (m : Model) (settings : SchemaSettings) (dryRun : Bool)
    {remote : MemoryRemote} (texts : remote.HoldsTexts) :
    ∃ summary, (m.deploy (some client) settings dryRun remote).result = .ok summary ∧
      (∀ before enum later, m.enumNames = before ++ enum :: later →
        ∃ item, summary.optionSets.items[before.length]? = some item ∧
          (item.outcome = .existing ↔
            remote.Finds dryRun .optionSet (settings.naming.optionSetName enum)
              (∃ earlier ∈ before,
                settings.naming.optionSetName earlier = settings.naming.optionSetName enum))) ∧
      (∀ before table later, m.tables.values = before ++ table :: later →
        ∃ item, summary.tables.items[before.length]? = some item ∧
          (item.outcome = .existing ↔ table.isReserved = false ∧
            remote.Finds dryRun .table table.schemaName
              (∃ earlier ∈ before, earlier.isReserved = false ∧
                (∃ key, earlier.displayField = .ok key) ∧
                earlier.schemaName = table.schemaName))) ∧
      ∀ report ∈ summary.reports, ∀ item ∈ report.items, ∀ id, item.identifier = some id →
        ((m.deploy (some client) settings dryRun remote).state.store report.kind).get? item.name =
          some (.text id) := by
  obtain ⟨summary, result, visit⟩ := m.visit settings dryRun texts
  refine ⟨summary, result, ?_, ?_, visit.identified⟩
  · exact fun before enum later declared => visit.optionSet_existing_iff declared
  · exact fun before table later declared => visit.table_existing_iff declared

/-- Of two enums that differ in case only, the second is reported as existing. -/
theorem Model.shared_names_two_cases :
    empty.HoldsTexts ∧
      ∃ m, Model.ofText {} false "Enum S \x7b\nA\n\x7d\nEnum s \x7b\nB\n\x7d" = .ok m ∧
        m.enumNames = ["S"] ++ "s" :: [] ∧
        ∃ summary, (m.deploy (some client) {} false empty).result = .ok summary ∧
          ∃ item, summary.optionSets.items[1]? = some item ∧ item.outcome = .existing := by
  have readable : ((Model.ofText {} false
      "Enum S \x7b\nA\n\x7d\nEnum s \x7b\nB\n\x7d").toOption.map fun m => m.enumNames) =
        some ["S", "s"] := by
    decide +kernel
  have shared : ({} : SchemaSettings).naming.optionSetName "S" =
      ({} : SchemaSettings).naming.optionSetName "s" := by
    decide +kernel
  obtain ⟨m, read, names⟩ := exists_of_toOption_map readable
  obtain ⟨summary, result, optionSets, -⟩ := m.shared_names {} false holdsTexts_empty
  obtain ⟨item, here, existing⟩ := optionSets ["S"] "s" [] names
  have found : empty.Finds false .optionSet (({} : SchemaSettings).naming.optionSetName "s")
      (∃ earlier ∈ ["S"], ({} : SchemaSettings).naming.optionSetName earlier =
        ({} : SchemaSettings).naming.optionSetName "s") :=
    ⟨rfl, Or.inr ⟨rfl, rfl, "S", List.mem_singleton_self "S", shared⟩⟩
  exact ⟨holdsTexts_empty, m, read, names, summary, result, item, here, existing.mpr found⟩

end ErdDeploy
