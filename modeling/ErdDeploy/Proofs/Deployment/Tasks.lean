import ErdDeploy.Deployment.Run
import ErdDeploy.Proofs.Data.OrderedMap
import ErdDeploy.Proofs.Deployment.Columns

/-!
The tasks that a model gives rise to.

Each stage has one task for each of its objects. What creates an object is stored
under the very name that is looked up before (`Stage.fits`); only the plans of
tables depend on the option sets that are known (`tableTasks_eq`).
`Model.Declares` says which objects can be brought about at all.
-/

namespace ErdDeploy

/-! ## One object of each kind -/

namespace Target

/-- The option set of an enum. -/
def ofEnum (settings : SchemaSettings) (enum : Enumeration) : Target :=
  { kind := .optionSet
    label := enum.name
    name := settings.naming.optionSetName enum.name
    plan := .ok (.optionSet (.ofEnum settings enum), []) }

/-- A table, with the option sets that are known. -/
def ofTable (settings : SchemaSettings) (optionSetIds : OrderedMap String) (table : Table) :
    Target :=
  { kind := .table
    label := table.schemaName
    name := table.schemaName
    plan := (TablePayload.ofTable settings optionSetIds table).map
      fun (payload, warnings) => (.table payload, warnings) }

/-- A relationship. -/
def ofRelationship (settings : SchemaSettings) (r : Relationship) : Target :=
  { kind := .relationship
    label := r.schemaName
    name := r.schemaName
    plan := .ok (.relationship (.ofRelationship settings r), []) }

/-- Whether there is a payload to create the target from. -/
def IsPlanned (target : Target) : Prop :=
  ∃ planned, target.plan = .ok planned

end Target

/-- The item of a table that exists already. -/
def Table.reservedItem (table : Table) : Item :=
  .skipped table.schemaName "extends existing table"

/-- What is to be done for a table. -/
def Task.ofTable (settings : SchemaSettings) (optionSetIds : OrderedMap String)
    (table : Table) : Task :=
  if table.isReserved then .settled table.reservedItem []
  else .converge (.ofTable settings optionSetIds table)

section

variable {settings : SchemaSettings} {ids : OrderedMap String} {m : Model}

theorem optionSetTasks_eq : optionSetTasks settings m =
    m.enums.values.map fun enum => .converge (.ofEnum settings enum) :=
  rfl

theorem tableTasks_eq : tableTasks settings ids m =
    m.tables.values.map (Task.ofTable settings ids) :=
  rfl

theorem relationshipTasks_cons (before : List String) (r : Relationship)
    (rest : List Relationship) : relationshipTasks settings before (r :: rest) =
      if before.contains r.schemaName then
        repeatedTask r :: relationshipTasks settings before rest
      else .converge (.ofRelationship settings r) ::
        relationshipTasks settings (r.schemaName :: before) rest :=
  rfl

/-- Every relationship has its task, also one whose name is repeated. -/
theorem length_relationshipTasks (before : List String) (rs : List Relationship) :
    (relationshipTasks settings before rs).length = rs.length := by
  induction rs generalizing before with
  | nil => rfl
  | cons r rest ih =>
      rw [relationshipTasks_cons]
      split
      · rw [List.length_cons, List.length_cons, ih]
      · rw [List.length_cons, List.length_cons, ih]

/-- What is to be done for a relationship is to fail it or to look it up. -/
theorem exists_of_mem_relationshipTasks {before : List String} {rs : List Relationship}
    {task : Task} (member : task ∈ relationshipTasks settings before rs) :
    ∃ r ∈ rs, task = repeatedTask r ∨ task = .converge (.ofRelationship settings r) := by
  induction rs generalizing before with
  | nil => cases member
  | cons r rest ih =>
      rw [relationshipTasks_cons] at member
      split at member
      · rcases List.mem_cons.mp member with rfl | later
        · exact ⟨r, List.mem_cons_self, Or.inl rfl⟩
        · obtain ⟨other, among, same⟩ := ih later
          exact ⟨other, List.mem_cons_of_mem _ among, same⟩
      · rcases List.mem_cons.mp member with rfl | later
        · exact ⟨r, List.mem_cons_self, Or.inr rfl⟩
        · obtain ⟨other, among, same⟩ := ih later
          exact ⟨other, List.mem_cons_of_mem _ among, same⟩

/-- The tasks of two parts: the second part is entered with the names of the first one seen. -/
theorem relationshipTasks_append (before : List String) (rs later : List Relationship) :
    ∃ seen, relationshipTasks settings before (rs ++ later) =
        relationshipTasks settings before rs ++ relationshipTasks settings seen later ∧
      ∀ name, seen.contains name = true ↔
        before.contains name = true ∨ name ∈ rs.map Relationship.schemaName := by
  induction rs generalizing before with
  | nil => exact ⟨before, rfl, by simp⟩
  | cons r rest ih =>
      rw [List.cons_append, relationshipTasks_cons, relationshipTasks_cons]
      split
      · next repeated =>
        obtain ⟨seen, split, known⟩ := ih before
        refine ⟨seen, by rw [split, List.cons_append], fun name => (known name).trans ?_⟩
        rw [List.map_cons, List.mem_cons]
        constructor
        · exact Or.imp_right Or.inr
        · rintro (old | rfl | new)
          · exact Or.inl old
          · exact Or.inl repeated
          · exact Or.inr new
      · obtain ⟨seen, split, known⟩ := ih (r.schemaName :: before)
        refine ⟨seen, by rw [split, List.cons_append], fun name => (known name).trans ?_⟩
        simp [or_assoc, or_left_comm]

/-- The task at one place of a stage: a relationship fails if an earlier one has its name, and is
looked up otherwise. -/
theorem relationshipTasks_at (before later : List Relationship) (r : Relationship) :
    ∃ front behind, front.length = before.length ∧
      relationshipTasks settings [] (before ++ r :: later) =
        front ++ (if r.schemaName ∈ before.map Relationship.schemaName then repeatedTask r
          else .converge (.ofRelationship settings r)) :: behind := by
  obtain ⟨seen, split, known⟩ := @relationshipTasks_append settings [] before (r :: later)
  have seen_iff : seen.contains r.schemaName = true ↔
      r.schemaName ∈ before.map Relationship.schemaName := by
    rw [known]
    apply or_iff_right
    simp
  have length := @length_relationshipTasks settings [] before
  rw [split, relationshipTasks_cons]
  by_cases repeated : r.schemaName ∈ before.map Relationship.schemaName
  · rw [if_pos (seen_iff.mpr repeated), if_pos repeated]
    exact ⟨_, _, length, rfl⟩
  · rw [if_neg (mt seen_iff.mp repeated), if_neg repeated]
    exact ⟨_, _, length, rfl⟩

/-- The plan of a table is its payload. -/
theorem Target.plan_ofTable_inv {table : Table} {payload : Payload} {warnings : List LogEntry}
    (planned : (Target.ofTable settings ids table).plan = .ok (payload, warnings)) :
    ∃ made, payload = .table made ∧
      TablePayload.ofTable settings ids table = .ok (made, warnings) := by
  simp only [ofTable] at planned
  cases made : TablePayload.ofTable settings ids table with
  | error missing =>
      rw [made] at planned
      cases planned
  | ok result =>
      rw [made] at planned
      cases planned
      exact ⟨_, rfl, rfl⟩

/-- A table is planned exactly if it has a key. -/
theorem Target.isPlanned_ofTable {table : Table} :
    (Target.ofTable settings ids table).IsPlanned ↔ ∃ key, table.displayField = .ok key := by
  unfold IsPlanned ofTable TablePayload.ofTable
  cases table.displayField with
  | error missing => simp [Except.map]
  | ok key => simp [Except.map]

end

/-! ## Tasks fit their stage -/

/-- A task fits a kind of objects if what it looks up and what it creates are of that kind and
of one name. A settled task was skipped or has failed, and knows no identifier. -/
def Task.Fits (kind : ObjectKind) : Task → Prop
  | .settled item _ =>
    (item.outcome = .skipped ∨ item.outcome = .failed) ∧ item.identifier = none
  | .converge target => target.kind = kind ∧
      ∀ payload warnings, target.plan = .ok (payload, warnings) →
        payload.kind = kind ∧ payload.name = target.name

theorem Task.fits_ofEnum (settings : SchemaSettings) (enum : Enumeration) :
    (Task.converge (.ofEnum settings enum)).Fits .optionSet := by
  refine ⟨rfl, ?_⟩
  intro payload warnings planned
  cases planned
  exact ⟨rfl, rfl⟩

theorem Task.fits_ofTable (settings : SchemaSettings) (ids : OrderedMap String) (table : Table) :
    (Task.ofTable settings ids table).Fits .table := by
  unfold Task.ofTable
  split
  · exact ⟨Or.inl rfl, rfl⟩
  · refine ⟨rfl, ?_⟩
    intro payload warnings planned
    obtain ⟨made, rfl, same⟩ := Target.plan_ofTable_inv planned
    exact ⟨rfl, (TablePayload.signatures_ofTable same).1⟩

theorem Task.fits_ofRelationship (settings : SchemaSettings) (r : Relationship) :
    (Task.converge (.ofRelationship settings r)).Fits .relationship := by
  refine ⟨rfl, ?_⟩
  intro payload warnings planned
  cases planned
  exact ⟨rfl, rfl⟩

theorem fits_of_mem_relationshipTasks {settings : SchemaSettings} {rs : List Relationship}
    {before : List String} {task : Task} (member : task ∈ relationshipTasks settings before rs) :
    task.Fits .relationship := by
  obtain ⟨r, -, rfl | rfl⟩ := exists_of_mem_relationshipTasks member
  · exact ⟨Or.inr rfl, rfl⟩
  · exact Task.fits_ofRelationship settings r

/-- Every task of a stage fits the kind of the stage. -/
theorem Stage.fits {stage : Stage} {settings : SchemaSettings} {ids : OrderedMap String}
    {m : Model} {task : Task} (member : task ∈ stage.tasks settings ids m) :
    task.Fits stage.kind := by
  cases stage with
  | optionSets =>
      rw [tasks, optionSetTasks_eq, List.mem_map] at member
      obtain ⟨enum, -, rfl⟩ := member
      exact Task.fits_ofEnum settings enum
  | tables =>
      rw [tasks, tableTasks_eq, List.mem_map] at member
      obtain ⟨table, -, rfl⟩ := member
      exact Task.fits_ofTable settings ids table
  | tableRelationships => exact fits_of_mem_relationshipTasks member
  | userRelationships => exact fits_of_mem_relationshipTasks member

/-! ## What a task can bring about -/

/-- The task can bring about the object of a kind and a name. -/
def Task.Brings (kind : ObjectKind) (name : String) : Task → Prop
  | .settled _ _ => False
  | .converge target => target.IsPlanned ∧ target.kind = kind ∧ target.name = name

theorem Task.brings_ofEnum {settings : SchemaSettings} {enum : Enumeration} {name : String} :
    (Task.converge (.ofEnum settings enum)).Brings .optionSet name ↔
      settings.naming.optionSetName enum.name = name :=
  ⟨fun brings => brings.2.2, fun same => ⟨⟨_, rfl⟩, rfl, same⟩⟩

/-- A table is brought about if it is not there already and has a key. -/
theorem Task.brings_ofTable {settings : SchemaSettings} {ids : OrderedMap String} {table : Table}
    {name : String} : (Task.ofTable settings ids table).Brings .table name ↔
      table.isReserved = false ∧ (∃ key, table.displayField = .ok key) ∧
        table.schemaName = name := by
  unfold Task.ofTable
  split
  · next reserved => simp [Brings, reserved]
  · next free =>
    have planned := @Target.isPlanned_ofTable settings ids table
    constructor
    · rintro ⟨plan, -, same⟩
      exact ⟨by simpa using free, planned.mp plan, same⟩
    · rintro ⟨-, key, same⟩
      exact ⟨planned.mpr key, rfl, same⟩

/-! ## What a model declares -/

/-- The model declares an object that can be brought about. -/
def Model.Declares (m : Model) (settings : SchemaSettings) (kind : ObjectKind) (name : String) :
    Prop :=
  ∃ (stage : Stage) (ids : OrderedMap String) (target : Target),
    Task.converge target ∈ stage.tasks settings ids m ∧ target.IsPlanned ∧
      target.kind = kind ∧ target.name = name

/-- What is declared with some option sets known is declared with any others. -/
theorem Target.exists_of_mem_tableTasks {settings : SchemaSettings} {ids : OrderedMap String}
    {m : Model} {target : Target} (ids' : OrderedMap String)
    (member : Task.converge target ∈ tableTasks settings ids m) (planned : target.IsPlanned) :
    ∃ other, Task.converge other ∈ tableTasks settings ids' m ∧ other.IsPlanned ∧
      other.kind = target.kind ∧ other.name = target.name := by
  rw [tableTasks_eq, List.mem_map] at member
  obtain ⟨table, among, same⟩ := member
  unfold Task.ofTable at same
  split at same
  · cases same
  · next free =>
    cases same
    refine ⟨.ofTable settings ids' table, ?_, ?_, rfl, rfl⟩
    · rw [tableTasks_eq, List.mem_map]
      exact ⟨table, among, by rw [Task.ofTable, if_neg free]⟩
    · exact isPlanned_ofTable.mpr (isPlanned_ofTable.mp planned)

end ErdDeploy
