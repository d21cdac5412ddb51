import ErdDeploy.Proofs.Deployment.Accounts

/-!
The tables that a run creates.

`createdTables` reads the tables with their columns off the exchanges of a run. A run
creates a table exactly if the remote admits its name, which means that it neither
has it nor fails on it, and the model has a table of that name with a key. The
columns are those of the key and of the fields that are bound by the option sets the
run knows (`Visit.lookup_createdTables`).
-/

namespace ErdDeploy

open MemoryRemote

/-! ## Reading the exchanges -/

/-- The tables that were created, each with the kinds and the names of its columns. -/
def createdTables (exchanges : List Exchange) : List (String × List (String × String)) :=
  exchanges.filterMap fun
    | .create (.table payload) (.ok _) =>
      some (payload.schemaName, payload.attributes.map Attribute.signature)
    | _ => none

theorem createdTables_append (exchanges later : List Exchange) :
    createdTables (exchanges ++ later) = createdTables exchanges ++ createdTables later :=
  List.filterMap_append

/-- The names of the tables that were created. -/
theorem map_fst_createdTables (exchanges : List Exchange) :
    (createdTables exchanges).map Prod.fst = createdNames .table exchanges := by
  rw [createdTables, List.map_filterMap, createdNames]
  refine List.filterMap_congr fun exchange _ => ?_
  cases exchange with
  | find kind name answer => rfl
  | create payload answer =>
      cases answer with
      | error error => cases payload <;> rfl
      | ok id => cases payload <;> rfl

theorem lookup_createdTables_eq_none {exchanges : List Exchange} {name : String} :
    (createdTables exchanges).lookup name = none ↔ name ∉ createdNames .table exchanges := by
  rw [← map_fst_createdTables, List.lookup_eq_none_iff, List.mem_map]
  constructor
  · rintro absent ⟨entry, member, rfl⟩
    simpa using absent entry member
  · intro absent entry member
    have differ : name ≠ entry.1 := fun same => absent ⟨entry, member, same.symm⟩
    simpa using differ

/-- The remote has no object of the name, and would neither fail to say so nor to create one. -/
structure MemoryRemote.Admits (remote : MemoryRemote) (kind : ObjectKind) (name : String) :
    Prop where
  answered : remote.failures.lookup (.find name) = none
  accepted : remote.failures.lookup (.create name) = none
  absent : name ∉ (remote.store kind).names

/-- A remote that has grown admits what it admitted before, except what was created. -/
theorem MemoryRemote.Growth.admits_iff {remote after : MemoryRemote} {exchanges : List Exchange}
    {kind : ObjectKind} {name : String} (growth : remote.Growth exchanges after) :
    after.Admits kind name ↔ remote.Admits kind name ∧ name ∉ createdNames kind exchanges := by
  constructor
  · rintro ⟨answered, accepted, absent⟩
    rw [growth.failures] at answered accepted
    rw [growth.names, List.mem_append, not_or] at absent
    exact ⟨⟨answered, accepted, absent.1⟩, absent.2⟩
  · rintro ⟨⟨answered, accepted, absent⟩, fresh⟩
    refine ⟨?_, ?_, ?_⟩
    · rw [growth.failures, answered]
    · rw [growth.failures, accepted]
    · rw [growth.names, List.mem_append, not_or]
      exact ⟨absent, fresh⟩

/-- Without failures a remote admits whatever it does not have. -/
theorem MemoryRemote.admits_withFailures_nil {remote : MemoryRemote} {kind : ObjectKind}
    {name : String} :
    (remote.withFailures []).Admits kind name ↔ name ∉ (remote.store kind).names := by
  constructor
  · intro admits
    rw [← store_withFailures remote []]
    exact admits.absent
  · intro absent
    refine ⟨rfl, rfl, ?_⟩
    rwa [store_withFailures]

section

variable {target : Target} {item : Item} {remote after : MemoryRemote} {exchanges : List Exchange}

/-- What the remote admits is created from its plan. -/
theorem Target.Fares.exchanges_of_admits {payload : Payload} {warnings : List LogEntry}
    (admits : remote.Admits target.kind target.name)
    (planned : target.plan = .ok (payload, warnings))
    (fares : target.Fares false remote item exchanges after) :
    exchanges =
      [target.lookup (.ok .absent), .create payload (.ok (.text remote.nextIdentifier))] := by
  cases fares with
  | lookupFailed failing _ =>
      rw [admits.answered] at failing
      cases failing
  | found _ stored _ => exact absurd (OrderedMap.mem_names_of_get? stored) admits.absent
  | unplanned _ plan _ =>
      rw [plan] at planned
      cases planned
  | skipped _ _ dry _ => cases dry
  | refused _ _ _ failing _ =>
      rw [admits.accepted] at failing
      cases failing
  | created _ plan _ _ _ _ _ =>
      rw [plan] at planned
      cases planned
      rfl

/-- What the remote does not admit, or what has no plan, is not created. -/
theorem Target.Fares.createdTables_eq_nil
    (blocked : ¬ (remote.Admits target.kind target.name ∧ target.IsPlanned))
    (fares : target.Fares false remote item exchanges after) : createdTables exchanges = [] := by
  cases fares with
  | lookupFailed _ _ => rfl
  | found _ _ _ => rfl
  | unplanned _ _ _ => rfl
  | skipped _ _ _ _ => rfl
  | refused _ _ _ _ _ => simp [createdTables, Target.lookup]
  | created missed plan _ accepted _ _ _ =>
      have admits : remote.Admits target.kind target.name :=
        ⟨missed.answered, accepted, OrderedMap.get?_eq_none_iff.mp missed.absent⟩
      exact absurd ⟨admits, _, plan⟩ blocked

end

/-- The first table of a name that is to be created and has a key, with this key. -/
def creatorOf (name : String) (tables : List Table) : Option (Table × Field) :=
  tables.findSome? fun table =>
    if table.isReserved || table.schemaName != name then none
    else table.displayField.toOption.map fun key => (table, key)

theorem creatorOf_cons (name : String) (table : Table) (tables : List Table) :
    creatorOf name (table :: tables) = (creatorOf name [table]).or (creatorOf name tables) := by
  rw [creatorOf, ← List.singleton_append, List.findSome?_append, creatorOf, creatorOf]

theorem creatorOf_inv {name : String} {tables : List Table} {table : Table} {key : Field}
    (found : creatorOf name tables = some (table, key)) :
    table ∈ tables ∧ table.isReserved = false ∧ table.schemaName = name ∧
      table.displayField = .ok key := by
  obtain ⟨before, other, after, rfl, here, -⟩ := List.findSome?_eq_some_iff.mp found
  split at here
  · cases here
  · next open' =>
    simp only [Bool.or_eq_true, bne_iff_ne, ne_eq, not_or, Bool.not_eq_true,
      Decidable.not_not] at open'
    cases display : other.displayField with
    | error missing =>
        rw [display] at here
        cases here
    | ok key' =>
        rw [display] at here
        cases here
        exact ⟨by simp, open'.1, open'.2, display⟩

/-- The columns with which a table of a name would be created, with the option sets that are
known. -/
def columnsFor (settings : SchemaSettings) (known : OrderedMap String) (name : String)
    (tables : List Table) : Option (List (String × String)) :=
  (creatorOf name tables).map fun (table, key) => table.columns settings known key

section

variable {settings : SchemaSettings} {ids : OrderedMap String} {table : Table} {name : String}
  {remote after : MemoryRemote} {exchanges : List Exchange}

theorem columnsFor_cons (settings : SchemaSettings) (ids : OrderedMap String) (name : String)
    (table : Table) (tables : List Table) :
    columnsFor settings ids name (table :: tables) =
      (columnsFor settings ids name [table]).or (columnsFor settings ids name tables) := by
  rw [columnsFor, creatorOf_cons, columnsFor, columnsFor]
  cases creatorOf name [table] with
  | none => rfl
  | some made => rfl

theorem columnsFor_singleton {key : Field} (open' : table.isReserved = false)
    (display : table.displayField = .ok key) :
    columnsFor settings ids name [table] =
      if table.schemaName = name then some (table.columns settings ids key) else none := by
  by_cases same : table.schemaName = name
  · simp [columnsFor, creatorOf, open', same, display, Except.toOption]
  · simp [columnsFor, creatorOf, same]

/-- One table: it is created if the remote admits its name, and with the columns of its key and
of the fields that are bound. -/
theorem Task.Fares.lookup_createdTables {item : Item}
    (fares : (Task.ofTable settings ids table).Fares false remote item exchanges after)
    (name : String) :
    (remote.Admits .table name →
        (createdTables exchanges).lookup name = columnsFor settings ids name [table]) ∧
      (¬ remote.Admits .table name → (createdTables exchanges).lookup name = none) := by
  unfold Task.ofTable at fares
  split at fares
  · next reserved =>
    cases fares
    exact ⟨fun _ => by simp [columnsFor, creatorOf, reserved, createdTables], fun _ => rfl⟩
  · next free =>
    have open' : table.isReserved = false := by simpa using free
    cases fares with
    | converge fares =>
        by_cases goes : remote.Admits .table table.schemaName ∧
            (Target.ofTable settings ids table).IsPlanned
        · obtain ⟨admits, ⟨payload, warnings⟩, plan⟩ := goes
          obtain ⟨made, rfl, planned⟩ := Target.plan_ofTable_inv plan
          obtain ⟨named, key, display, columns⟩ := TablePayload.signatures_ofTable planned
          rw [fares.exchanges_of_admits admits plan, columnsFor_singleton open' display]
          have one : createdTables [(Target.ofTable settings ids table).lookup (.ok .absent),
              .create (.table made) (.ok (.text remote.nextIdentifier))] =
                [(table.schemaName, table.columns settings ids key)] := by
            simp [createdTables, Target.lookup, named, columns]
          rw [one]
          by_cases same : table.schemaName = name
          · subst same
            exact ⟨fun _ => by simp, fun refused => absurd admits refused⟩
          · simp [same, Ne.symm same]
        · have nothing := fares.createdTables_eq_nil goes
          rw [nothing]
          refine ⟨fun admits => ?_, fun _ => rfl⟩
          rw [List.lookup_nil, eq_comm, columnsFor, Option.map_eq_none_iff,
            Option.eq_none_iff_forall_ne_some]
          rintro ⟨other, key⟩ found
          obtain ⟨same, -, rfl, display⟩ := creatorOf_inv found
          rw [List.mem_singleton] at same
          subst same
          exact goes ⟨admits, Target.isPlanned_ofTable.mpr ⟨key, display⟩⟩

/-- The tables of a stage: the first one of a name that has a key is created, if the remote admits
the name. -/
theorem Passage.lookup_createdTables {tables : List Table} {items : List Item}
    (passage : Passage false remote (tables.map (Task.ofTable settings ids)) items exchanges after)
    (name : String) :
    (remote.Admits .table name →
        (createdTables exchanges).lookup name = columnsFor settings ids name tables) ∧
      (¬ remote.Admits .table name → (createdTables exchanges).lookup name = none) := by
  induction tables generalizing remote items exchanges with
  | nil =>
      cases passage
      exact ⟨fun _ => rfl, fun _ => rfl⟩
  | cons table tables ih =>
      cases passage with
      | next fares rest =>
          obtain ⟨open', shut⟩ := fares.lookup_createdTables name
          obtain ⟨openRest, shutRest⟩ := ih rest
          have still := @MemoryRemote.Growth.admits_iff _ _ _ .table name fares.growth
          rw [← lookup_createdTables_eq_none] at still
          rw [createdTables_append, List.lookup_append]
          constructor
          · intro admits
            rw [columnsFor_cons, ← open' admits]
            cases first : (createdTables _).lookup name with
            | some columns => rfl
            | none => rw [openRest (still.mpr ⟨admits, first⟩)]
          · intro refused
            rw [shut refused, shutRest fun admits => refused (still.mp admits).1]
            rfl

/-- Stages of another kind create no tables. -/
theorem Passage.createdTables_eq_nil {tasks : List Task} {items : List Item}
    {kind : ObjectKind} (other : kind ≠ .table) (fits : ∀ task ∈ tasks, task.Fits kind)
    (passage : Passage false remote tasks items exchanges after) :
    createdTables exchanges = [] := by
  have names : createdNames .table exchanges = [] := by
    rw [List.eq_nil_iff_forall_not_mem]
    intro name created
    obtain ⟨target, among, -, same, -⟩ := passage.declared created
    exact other ((fits _ among).1.symm.trans same)
  rw [← map_fst_createdTables, List.map_eq_nil_iff] at names
  exact names

/-- **Tables of a run.** A run creates the first table of a name that has a key, with the columns
of the fields that are bound by the option sets it knows, if the remote admits the name. -/
theorem Visit.lookup_createdTables {m : Model} {summary : Summary}
    (visit : Visit false settings m remote summary exchanges after) (name : String) :
    (remote.Admits .table name → (createdTables exchanges).lookup name =
        columnsFor settings summary.registry.optionSets name m.tables.values) ∧
      (¬ remote.Admits .table name → (createdTables exchanges).lookup name = none) := by
  obtain ⟨first, second, third, fourth⟩ := visit
  have noneFirst := first.createdTables_eq_nil (by decide)
    fun task member => @Stage.fits .optionSets settings .empty m task member
  have noneThird := third.createdTables_eq_nil (by decide)
    fun task member => fits_of_mem_relationshipTasks member
  have noneFourth := fourth.createdTables_eq_nil (by decide)
    fun task member => fits_of_mem_relationshipTasks member
  have admits := @MemoryRemote.Growth.admits_iff _ _ _ .table name first.growth
  rw [← map_fst_createdTables, noneFirst] at admits
  rw [createdTables_append, createdTables_append, createdTables_append, noneFirst, noneThird,
    noneFourth, List.nil_append, List.append_nil, List.append_nil,
    Summary.registry_optionSets_ofItems]
  rw [tableTasks_eq] at second
  have tables := second.lookup_createdTables name
  simpa [admits] using tables

end

/-- The columns of a table to be created depend on nothing but which option sets are known. -/
theorem columnsFor_congr {settings : SchemaSettings} {known known' : OrderedMap String}
    (same : ∀ name, known.contains name = known'.contains name) (name : String)
    (tables : List Table) :
    columnsFor settings known name tables = columnsFor settings known' name tables := by
  have columns : ∀ table key, Table.columns settings known key table =
      Table.columns settings known' key table :=
    fun table key => Table.columns_congr same key table
  simp only [columnsFor, columns]

end ErdDeploy
