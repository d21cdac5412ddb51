import ErdDeploy.Proofs.Deployment.Twins

/-!
What a dry run foresees.

A dry run looks every object up but creates none, so from the first creation on the
remote of a run that is not dry is another one. That no later lookup sees the
difference takes that no two declarations come to one name, except where one of them
fails for this reason without a lookup (`Model.NamesApart`): then every task meets
its own address as it was at the start (`Passage.foreseen`). The two runs know
different option sets, too, but whether a table can be planned does not depend on
them.

`Model.dryRun_foresees` says that, if the remote refuses no creation, a dry run
reports what the other run would, with the creations as skipped.
-/

namespace ErdDeploy

open MemoryRemote

/-! ## Foreseen items -/

/-- The item by which a dry run foresees an item: what would be created is skipped. -/
def Item.foreseen (item : Item) : Item :=
  if item.outcome = .created then .skipped item.name "would create" else item

/-- The report by which a dry run foresees a report. -/
def Report.foreseen (report : Report) : Report :=
  ⟨report.kind, report.items.map Item.foreseen⟩

section

variable {alike : TablePayload → TablePayload → Prop} {remote remote' after after' : MemoryRemote}
  {exchanges exchanges' : List Exchange}

/-- A dry run comes to the foreseen item, if it meets the same at the address of the target. -/
theorem Target.Twin.foreseen {target target' : Target} {item item' : Item}
    (twin : target.Twin alike target') (failures : remote'.failures = remote.failures)
    (stored : (remote'.store target.kind).get? target.name =
      (remote.store target.kind).get? target.name)
    (accepted : remote.failures.lookup (.create target.name) = none)
    (real : target.Fares false remote item exchanges after)
    (dry : target'.Fares true remote' item' exchanges' after') : item' = item.foreseen := by
  rw [dry.item_eq, itemOn, twin.kind, twin.label, twin.name, failures, stored]
  cases real with
  | lookupFailed failing _ =>
      rw [failing]
      rfl
  | found answered present _ =>
      rw [answered, present]
      rfl
  | unplanned missed plan _ =>
      rw [missed.answered, missed.absent, twin.plan_error plan]
      rfl
  | skipped _ _ dry _ => cases dry
  | refused _ _ _ failing _ =>
      rw [accepted] at failing
      cases failing
  | created missed plan _ _ _ _ _ =>
      obtain ⟨payload', warnings', plan', -⟩ := twin.plan_ok plan
      rw [missed.answered, missed.absent, plan']
      rfl

/-- A settled task comes to the same item in any run. -/
theorem Task.Fits.foreseen_settled {kind : ObjectKind} {item : Item} {log : List LogEntry}
    (fits : (Task.settled item log).Fits kind) : item.foreseen = item := by
  unfold Item.foreseen
  rcases fits.1 with skipped | failed
  · rw [skipped, if_neg (by decide)]
  · rw [failed, if_neg (by decide)]

/-- A task of a dry run leaves the remote as it was. -/
theorem Task.Fares.alike_of_dry {task : Task} {item : Item}
    (fares : task.Fares true remote item exchanges after) : remote.Alike after := by
  cases fares with
  | settled item log => exact ⟨fun _ => rfl, rfl, rfl⟩
  | converge fares =>
      cases fares with
      | lookupFailed _ alike => exact alike
      | found _ _ alike => exact alike
      | unplanned _ _ alike => exact alike
      | skipped _ _ _ alike => exact alike
      | refused _ _ wet _ _ => cases wet
      | created _ _ wet _ _ _ _ => cases wet

/-- Tasks of distinct addresses are foreseen, if both runs meet the same at these. -/
theorem Passage.foreseen {tasks tasks' : List Task} {items items' : List Item}
    (twins : List.Forall₂ (Task.Twin alike) tasks tasks')
    (fits : ∀ task ∈ tasks, ∃ kind, task.Fits kind)
    (distinct : (tasks.filterMap Task.address).Nodup)
    (accepting : ∀ name, remote.failures.lookup (.create name) = none)
    (failures : remote'.failures = remote.failures)
    (stored : ∀ kind name, (kind, name) ∈ tasks.filterMap Task.address →
      (remote'.store kind).get? name = (remote.store kind).get? name)
    (real : Passage false remote tasks items exchanges after)
    (dry : Passage true remote' tasks' items' exchanges' after') :
    items' = items.map Item.foreseen := by
  induction real generalizing remote' tasks' items' exchanges' with
  | done remote =>
      cases twins
      cases dry
      rfl
  | @next remote task tasks item _ middle items _ _ fares _ ih =>
      cases twins with
      | cons twin twins =>
          cases dry with
          | @next _ _ _ item' _ middle' items' _ _ fares' rest' =>
              have alike := fares'.alike_of_dry
              have here : item' = item.foreseen := by
                cases twin with
                | settled item log =>
                    cases fares
                    cases fares'
                    obtain ⟨kind, fits⟩ := fits _ List.mem_cons_self
                    exact fits.foreseen_settled.symm
                | @converge target target' twin =>
                    cases fares with
                    | converge fares =>
                        cases fares' with
                        | converge fares' =>
                            have own : (target.kind, target.name) ∈
                                (Task.converge target :: tasks).filterMap Task.address := by
                              simp [Task.address]
                            exact twin.foreseen failures (stored _ _ own) (accepting _) fares fares'
              -- What the first task has changed is not met by the others.
              have untouched : ∀ address ∈ tasks.filterMap Task.address,
                  task.address ≠ some address := by
                intro address member same
                rw [List.filterMap_cons_some same, List.nodup_cons] at distinct
                exact distinct.1 member
              have sublist : List.Sublist (tasks.filterMap Task.address)
                  ((task :: tasks).filterMap Task.address) :=
                (List.sublist_cons_self task tasks).filterMap _
              rw [here, List.map_cons, ih twins
                (fun task member => fits task (List.mem_cons_of_mem _ member))
                (distinct.sublist sublist) ?_ ?_ ?_ rest']
              · exact fun name => fares.growth.failures ▸ accepting name
              · rw [alike.failures, failures, fares.growth.failures]
              · intro kind name member
                rw [alike.store, stored kind name (sublist.subset member),
                  fares.get?_of_untouched (untouched _ member)]

end

/-! ## Names apart -/

/-- No two declarations come to one remote name, unless they are relationships of one stage. -/
structure Model.NamesApart (m : Model) (settings : SchemaSettings) : Prop where
  optionSets : (m.enumNames.map settings.naming.optionSetName).Nodup
  tables : (m.creatableTables.map Table.schemaName).Nodup
  relationships : ∀ r ∈ m.relationships, ∀ user ∈ m.userRelationships,
    r.schemaName ≠ user.schemaName

/-- The tasks of a run, if the stage of tables knows some option sets. -/
def Model.tasks (m : Model) (settings : SchemaSettings) (ids : OrderedMap String) : List Task :=
  optionSetTasks settings m ++ (tableTasks settings ids m ++
    (relationshipTasks settings [] m.relationships ++
      relationshipTasks settings [] m.userRelationships))

section

variable {settings : SchemaSettings} {ids : OrderedMap String} {m : Model}

theorem nodup_map_kind {names : List String} (kind : ObjectKind) (distinct : names.Nodup) :
    (names.map fun name => (kind, name)).Nodup :=
  List.Pairwise.map _ (fun _ _ differ same => differ (congrArg Prod.snd same)) distinct

theorem ne_of_mem_map_kind {names names' : List String} {kind kind' : ObjectKind}
    (differ : kind ≠ kind') : ∀ address ∈ names.map (fun name => (kind, name)),
      ∀ address' ∈ names'.map (fun name => (kind', name)), address ≠ address' := by
  intro address member address' member' same
  obtain ⟨name, -, rfl⟩ := List.mem_map.mp member
  obtain ⟨name', -, rfl⟩ := List.mem_map.mp member'
  exact differ (congrArg Prod.fst same)

theorem addresses_optionSetTasks : (optionSetTasks settings m).filterMap Task.address =
    (m.enumNames.map settings.naming.optionSetName).map fun name => (.optionSet, name) := by
  rw [optionSetTasks_eq, Model.enumNames]
  induction m.enums.values with
  | nil => rfl
  | cons enum rest ih =>
      have own : (Task.converge (.ofEnum settings enum)).address =
          some (.optionSet, settings.naming.optionSetName enum.name) :=
        rfl
      rw [List.map_cons, List.filterMap_cons_some own, ih]
      rfl

theorem addresses_tableTasks : (tableTasks settings ids m).filterMap Task.address =
    (m.creatableTables.map Table.schemaName).map fun name => (.table, name) := by
  rw [tableTasks_eq, Model.creatableTables]
  induction m.tables.values with
  | nil => rfl
  | cons t ts ih =>
      rw [List.map_cons, List.filter_cons]
      cases reserved : t.isReserved with
      | true =>
          rw [List.filterMap_cons_none (by rw [Task.ofTable, if_pos reserved, Task.address]), ih]
          rfl
      | false =>
          have own : (Task.ofTable settings ids t).address = some (.table, t.schemaName) := by
            rw [Task.ofTable, if_neg (by simp [reserved])]
            rfl
          rw [List.filterMap_cons_some own, ih]
          rfl

/-- A stage of relationships looks up each of its names once. -/
theorem addresses_relationshipTasks (before : List String) (rs : List Relationship) :
    ∃ names : List String,
      (relationshipTasks settings before rs).filterMap Task.address =
        names.map (fun name => (.relationship, name)) ∧
      names.Nodup ∧ ∀ name ∈ names, name ∉ before ∧ name ∈ rs.map Relationship.schemaName := by
  induction rs generalizing before with
  | nil => exact ⟨[], rfl, .nil, by simp⟩
  | cons r rest ih =>
      rw [relationshipTasks_cons]
      split
      · obtain ⟨names, addresses, distinct, fresh⟩ := ih before
        refine ⟨names, ?_, distinct, fun name member => ?_⟩
        · rw [← addresses]
          rfl
        · obtain ⟨unseen, declared⟩ := fresh name member
          exact ⟨unseen, List.mem_cons_of_mem _ declared⟩
      · next unseen =>
        obtain ⟨names, addresses, distinct, fresh⟩ := ih (r.schemaName :: before)
        refine ⟨r.schemaName :: names, ?_, ?_, ?_⟩
        · rw [List.map_cons, ← addresses]
          rfl
        · refine List.nodup_cons.mpr ⟨fun member => ?_, distinct⟩
          exact (fresh _ member).1 List.mem_cons_self
        · intro name member
          rcases List.mem_cons.mp member with rfl | later
          · exact ⟨by simpa using unseen, List.mem_cons_self⟩
          · obtain ⟨unseen, declared⟩ := fresh name later
            exact ⟨fun seen => unseen (List.mem_cons_of_mem _ seen),
              List.mem_cons_of_mem _ declared⟩

/-- If the names of a model are apart, no two of its tasks have one address. -/
theorem Model.NamesApart.addresses (apart : m.NamesApart settings) :
    ((m.tasks settings ids).filterMap Task.address).Nodup := by
  obtain ⟨names, ofTables, distinct, declared⟩ :=
    @addresses_relationshipTasks settings [] m.relationships
  obtain ⟨names', ofUsers, distinct', declared'⟩ :=
    @addresses_relationshipTasks settings [] m.userRelationships
  have disjoint : ∀ name ∈ names, name ∉ names' := by
    intro name member member'
    obtain ⟨r, among, rfl⟩ := List.mem_map.mp (declared name member).2
    obtain ⟨user, among', same⟩ := List.mem_map.mp (declared' _ member').2
    exact apart.relationships r among user among' same.symm
  rw [tasks, List.filterMap_append, List.filterMap_append, List.filterMap_append,
    addresses_optionSetTasks, addresses_tableTasks, ofTables, ofUsers, ← List.map_append]
  have relationships : (names ++ names').Nodup := by
    refine List.nodup_append.mpr ⟨distinct, distinct', ?_⟩
    rintro name member _ member' rfl
    exact disjoint name member member'
  refine List.nodup_append.mpr ⟨nodup_map_kind _ apart.optionSets, ?_, ?_⟩
  · exact List.nodup_append.mpr ⟨nodup_map_kind _ apart.tables, nodup_map_kind _ relationships,
      ne_of_mem_map_kind (by decide)⟩
  · intro address member address' member'
    rcases List.mem_append.mp member' with table | relationship
    · exact ne_of_mem_map_kind (by decide) address member address' table
    · exact ne_of_mem_map_kind (by decide) address member address' relationship

/-! ## Runs -/

theorem Model.fits_of_mem_tasks {task : Task} (member : task ∈ m.tasks settings ids) :
    ∃ kind, task.Fits kind := by
  simp only [tasks, List.mem_append] at member
  rcases member with first | second | third | fourth
  · exact ⟨_, @Stage.fits .optionSets settings ids m task first⟩
  · exact ⟨_, @Stage.fits .tables settings ids m task second⟩
  · exact ⟨_, fits_of_mem_relationshipTasks third⟩
  · exact ⟨_, fits_of_mem_relationshipTasks fourth⟩

/-- The tasks of two runs are twins, whatever option sets the runs know. -/
theorem Model.twins_tasks (ids' : OrderedMap String) :
    List.Forall₂ (Task.Twin fun _ _ => True) (m.tasks settings ids) (m.tasks settings ids') := by
  have stage := fun stage : Stage =>
    @Stage.twins (fun _ _ => True) settings ids ids' m stage fun _ _ _ _ => trivial
  exact List.rel_append (stage .optionSets)
    (List.rel_append (stage .tables)
      (List.rel_append (stage .tableRelationships) (stage .userRelationships)))

theorem Visit.foreseen {remote after after' : MemoryRemote} {exchanges exchanges' : List Exchange}
    {real plan : Summary} (apart : m.NamesApart settings)
    (accepting : ∀ name, remote.failures.lookup (.create name) = none)
    (visit : Visit false settings m remote real exchanges after)
    (visit' : Visit true settings m remote plan exchanges' after') :
    plan.reports = real.reports.map Report.foreseen := by
  obtain ⟨first, second, third, fourth⟩ := visit
  obtain ⟨first', second', third', fourth'⟩ := visit'
  have whole := first.append (second.append (third.append fourth))
  have whole' := first'.append (second'.append (third'.append fourth'))
  have foreseen := whole.foreseen (Model.twins_tasks _)
    (fun task member => Model.fits_of_mem_tasks member) apart.addresses accepting rfl
    (fun _ _ _ => rfl) whole'
  -- Both runs have as many items as tasks in each stage.
  have lengthFirst := first'.length_items.trans first.length_items.symm
  have lengthSecond := second'.length_items
  rw [tableTasks_eq, List.length_map, ← List.length_map (Task.ofTable settings _),
    ← tableTasks_eq, ← second.length_items] at lengthSecond
  have lengthThird := third'.length_items.trans third.length_items.symm
  simp only [List.map_append] at foreseen
  obtain ⟨optionSets, foreseen⟩ := List.append_inj foreseen (by simpa using lengthFirst)
  obtain ⟨tables, foreseen⟩ := List.append_inj foreseen (by simpa using lengthSecond)
  obtain ⟨relationships, userRelationships⟩ :=
    List.append_inj foreseen (by simpa using lengthThird)
  rw [Summary.reports_ofItems, Summary.reports_ofItems, optionSets, tables, relationships,
    userRelationships, ← List.map_append]
  rfl

/-- **Dry runs.** If the names of a model are apart and the remote refuses no creation, a dry run
reports what the run would: the same items in the same order, with the creations as skipped. -/
theorem Model.dryRun_foresees (m : Model) (settings : SchemaSettings)
    (apart : m.NamesApart settings) {remote : MemoryRemote} (texts : remote.HoldsTexts)
    (accepting : ∀ name, remote.failures.lookup (.create name) = none) :
    ∃ real plan, (m.deploy (some client) settings false remote).result = .ok real ∧
      (m.deploy (some client) settings true remote).result = .ok plan ∧
      plan.reports = real.reports.map Report.foreseen := by
  obtain ⟨real, result, visit⟩ := m.visit settings false texts
  obtain ⟨plan, result', visit'⟩ := m.visit settings true texts
  exact ⟨real, plan, result, result', visit.foreseen apart accepting visit'⟩

end

/-- A source with objects of all kinds. -/
def allKinds : String :=
  "Enum S \x7b\nA\n\x7d\nTable T \x7b\nid GUID [pk]\ns S\np Person\n\x7d\n" ++
    "Table U \x7b\nid GUID [pk]\nx Int\n\x7d\nTable V \x7b\nx Int\n\x7d\nRef: T.id < U.tid"

/-- A remote that has one of its tables and fails to look another one up. -/
def partlyThere : MemoryRemote :=
  (empty.seed .table "new_u" (.text "u")).withFailures [(.find "new_t", ⟨"boom", none, .null⟩)]

theorem Model.dryRun_foresees_mixed :
    partlyThere.HoldsTexts ∧
      (∀ name, partlyThere.failures.lookup (.create name) = none) ∧
      ∃ m, Model.ofText {} false allKinds = .ok m ∧
        m.NamesApart {} ∧
        ∃ real plan,
          (m.deploy (some client) {} false partlyThere).result = .ok real ∧
          (m.deploy (some client) {} true partlyThere).result = .ok plan ∧
          plan.reports = real.reports.map Report.foreseen := by
  have texts : partlyThere.HoldsTexts :=
    (holdsTexts_empty.seed .table "new_u" "u").withFailures _
  have accepting : ∀ name, partlyThere.failures.lookup (.create name) = none := fun _ => rfl
  have names : ((Model.ofText {} false allKinds).toOption.map fun m =>
        (m.enumNames.map (NamingRules.optionSetName {}),
          m.creatableTables.map Table.schemaName,
          m.relationships.map Relationship.schemaName,
          m.userRelationships.map Relationship.schemaName)) =
      some (["new_s"], ["new_t", "new_u", "new_v"], ["new_T_U"], ["new_T_p_systemuser"]) := by
    decide +kernel
  obtain ⟨m, read, all⟩ := exists_of_toOption_map names
  obtain ⟨optionSets, rest⟩ := Prod.mk.inj all
  obtain ⟨tables, rest⟩ := Prod.mk.inj rest
  obtain ⟨relationships, userRelationships⟩ := Prod.mk.inj rest
  have apart : m.NamesApart {} := by
    refine ⟨?_, ?_, ?_⟩
    · exact optionSets ▸ by decide
    · exact tables ▸ by decide
    · intro r member user member'
      have one := List.mem_map_of_mem (f := Relationship.schemaName) member
      have two := List.mem_map_of_mem (f := Relationship.schemaName) member'
      rw [relationships, List.mem_singleton] at one
      rw [userRelationships, List.mem_singleton] at two
      rw [one, two]
      decide
  exact ⟨texts, accepting, m, read, apart, m.dryRun_foresees {} apart texts accepting⟩

end ErdDeploy
