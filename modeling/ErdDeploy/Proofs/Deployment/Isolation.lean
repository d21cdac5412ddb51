import ErdDeploy.Proofs.Deployment.Divergence
import ErdDeploy.Proofs.Deployment.ItemNames

/-!
What a failure spreads to.

A run goes on after a failure. `Model.isolates` compares two runs from one remote
whose failures differ for a single name: objects of other names come to the same
outcome, error and note, and the calls about other names are the same. Two things may
differ. New objects may be given other identifiers, since these are numbered as they
come. And a table may have or lack the columns that choose among the values of the
option set of this name, or have them under another identifier
(`TablePayload.AlikeOff`), since what a stage of tables is told about the one before
are the option sets.
-/

namespace ErdDeploy

open MemoryRemote

section

variable {off : String} {start : MemoryRemote} {settings : SchemaSettings}
  {ids ids' : OrderedMap String}

/-! ## Columns in two runs -/

/-- The option set that a field chooses from. -/
def Field.optionSet? (settings : SchemaSettings) (field : Field) : Option String :=
  field.enumName.map settings.naming.optionSetName

/-- The column of a field in two runs: the identifier of a new option set may differ. -/
inductive Attribute.Twin (new : Prop) : Attribute → Attribute → Prop
  | same (column : Attribute) : Twin new column column
  | fresh {head : AttributeHead} {id id' : String} :
      new → Twin new ⟨head, .picklist id⟩ ⟨head, .picklist id'⟩

/-- The field chooses from an option set that the remote does not have. -/
def Field.ChoosesNew (settings : SchemaSettings) (start : MemoryRemote) (field : Field) : Prop :=
  ∃ name, field.optionSet? settings = some name ∧ start.Lacks .optionSet name

/-- The columns of fields that do not choose from an option set. -/
def columnsOff (settings : SchemaSettings) (off : String) (columns : List (Field × Attribute)) :
    List (Field × Attribute) :=
  columns.filter fun column => column.1.optionSet? settings ≠ some off

/-- Columns of some fields, in their order, where not every field needs to have one. -/
structure ColumnsOf (settings : SchemaSettings) (fields : List Field)
    (columns : List (Field × Attribute)) : Prop where
  order : (columns.map Prod.fst).Sublist fields
  heads : ∀ column ∈ columns, column.2.toAttributeHead = .ofField settings column.1
  choices : ∀ column ∈ columns, ∀ name, column.1.optionSet? settings = some name →
    ∃ id, column.2.kind = .picklist id

/-- The payload of a table of the model in two runs: it has the same columns, apart from those of
the fields that choose from the option set of the one name. -/
structure TablePayload.AlikeOff (m : Model) (settings : SchemaSettings) (off : String)
    (start : MemoryRemote) (payload payload' : TablePayload) : Prop where
  displayName : payload'.displayName = payload.displayName
  languageCode : payload'.languageCode = payload.languageCode
  attributes : ∃ t ∈ m.creatableTables, payload.schemaName = t.schemaName ∧
    ∃ key columns columns',
      payload.attributes = key :: columns.map Prod.snd ∧
      payload'.attributes = key :: columns'.map Prod.snd ∧
      ColumnsOf settings t.attributeFields columns ∧
      ColumnsOf settings t.attributeFields columns' ∧
      List.Forall₂
        (fun column column' => column'.1 = column.1 ∧
          column.2.Twin (column.1.ChoosesNew settings start) column'.2)
        (columnsOff settings off columns) (columnsOff settings off columns')

/-- The registries of two runs, but for one name. -/
def RegistriesAlike (off : String) (start : MemoryRemote) (ids ids' : OrderedMap String) : Prop :=
  ∀ name, name ≠ off → Renumbered (start.Lacks .optionSet name) (ids.get? name) (ids'.get? name)

/-- A field that does not choose from the one option set has its column in both runs or in
neither. -/
theorem Attribute.ofField_twin {field : Field} (alike : RegistriesAlike off start ids ids')
    (other : field.optionSet? settings ≠ some off) :
    (∃ warning, ofField settings ids field = .error warning ∧
        ofField settings ids' field = .error warning) ∨
      ∃ column column', ofField settings ids field = .ok column ∧
        ofField settings ids' field = .ok column' ∧
        column.Twin (field.ChoosesNew settings start) column' := by
  cases choice : field.enumName with
  | none =>
      simp only [ofField, choice]
      exact Or.inr ⟨_, _, rfl, rfl, .same _⟩
  | some enum =>
      have chosen : field.optionSet? settings = some (settings.naming.optionSetName enum) := by
        rw [Field.optionSet?, choice, Option.map_some]
      have differ : settings.naming.optionSetName enum ≠ off :=
        fun same => other (chosen.trans (congrArg some same))
      have known := alike _ differ
      simp only [ofField, choice]
      generalize ids.get? (settings.naming.optionSetName enum) = known₁ at known ⊢
      generalize ids'.get? (settings.naming.optionSetName enum) = known₂ at known ⊢
      cases known with
      | same =>
          cases known₁ with
          | none => exact Or.inl ⟨_, rfl, rfl⟩
          | some id => exact Or.inr ⟨_, _, rfl, rfl, .same _⟩
      | fresh new => exact Or.inr ⟨_, _, rfl, rfl, .fresh ⟨_, chosen, new⟩⟩

theorem columnsOff_boundColumns (alike : RegistriesAlike off start ids ids')
    (fields : List Field) :
    List.Forall₂
      (fun column column' => column'.1 = column.1 ∧
        column.2.Twin (column.1.ChoosesNew settings start) column'.2)
      (columnsOff settings off (boundColumns settings ids fields))
      (columnsOff settings off (boundColumns settings ids' fields)) := by
  induction fields with
  | nil => exact .nil
  | cons field fields ih =>
      by_cases chooses : field.optionSet? settings = some off
      · -- Whether the column is there or not, it is not counted.
        have skipped : ∀ known, columnsOff settings off
            (boundColumns settings known (field :: fields)) =
              columnsOff settings off (boundColumns settings known fields) := by
          intro known
          cases made : Attribute.ofField settings known field with
          | ok column =>
              rw [boundColumns_cons_ok made, columnsOff,
                List.filter_cons_of_neg (by simp [chooses]), columnsOff]
          | error warning => rw [boundColumns_cons_error made]
        rw [skipped, skipped]
        exact ih
      · have kept : ∀ {known column}, Attribute.ofField settings known field = .ok column →
            columnsOff settings off (boundColumns settings known (field :: fields)) =
              (field, column) :: columnsOff settings off (boundColumns settings known fields) := by
          intro known column made
          rw [boundColumns_cons_ok made, columnsOff, List.filter_cons_of_pos (by simp [chooses]),
            columnsOff]
        rcases Attribute.ofField_twin alike chooses with
          ⟨warning, made, made'⟩ | ⟨column, column', made, made', twin⟩
        · rw [boundColumns_cons_error made, boundColumns_cons_error made']
          exact ih
        · rw [kept made, kept made']
          exact .cons ⟨rfl, twin⟩ ih

theorem columnsOf_boundColumns (fields : List Field) :
    ColumnsOf settings fields (boundColumns settings ids fields) where
  order := sublist_boundColumns fields
  heads _ member := Attribute.head_ofField (mem_boundColumns.mp member).2
  choices := by
    rintro ⟨field, column⟩ member name chooses
    obtain ⟨-, made⟩ := mem_boundColumns.mp member
    obtain ⟨enum, choice, -⟩ := Option.map_eq_some_iff.mp chooses
    simp only [Attribute.ofField, choice] at made
    split at made
    · cases made
      exact ⟨_, rfl⟩
    · cases made

theorem Table.payload_alikeOff {m : Model} {t : Table} (member : t ∈ m.creatableTables)
    (alike : RegistriesAlike off start ids ids') (key : Field) :
    (t.payload settings ids key).AlikeOff m settings off start (t.payload settings ids' key) where
  displayName := rfl
  languageCode := rfl
  attributes := ⟨t, member, rfl, _, _, _, rfl, rfl, columnsOf_boundColumns _,
    columnsOf_boundColumns _, columnsOff_boundColumns alike t.attributeFields⟩

/-! ## Registries of two runs -/

theorem TwinItems.known {new : String → Prop} {names : List String} {items items' : List Item}
    {name : String} (twins : TwinItems off new names items items') (other : name ≠ off)
    (named : List.Forall₂ (fun name item => ∀ id, item.identifier = some id → item.name = name)
      names items)
    (known : (Registry.identifiersOf items).contains name = true) :
    (Registry.identifiersOf items').contains name = true := by
  rw [Registry.contains_identifiersOf] at known ⊢
  induction twins with
  | nil =>
      obtain ⟨item, member, -⟩ := known
      cases member
  | @cons position item item' names items items' twin _ ih =>
      cases named with
      | cons here named =>
          obtain ⟨found, member, rfl, id, identified⟩ := known
          rcases List.mem_cons.mp member with rfl | later
          · have twin := twin (here id identified ▸ other)
            have renumbered := twin.identifier
            rw [identified] at renumbered
            refine ⟨item', List.mem_cons_self, twin.name, ?_⟩
            generalize item'.identifier = identifier' at renumbered
            cases renumbered with
            | same => exact ⟨id, rfl⟩
            | fresh _ => exact ⟨_, rfl⟩
          · obtain ⟨match', among, same⟩ :=
              ih named ⟨found, later, rfl, id, identified⟩
            exact ⟨match', List.mem_cons_of_mem _ among, same⟩

variable {dryRun : Bool} {one two after after' : MemoryRemote}
  {exchanges exchanges' : List Exchange}

theorem Passage.named_of_identified {tasks : List Task} {items : List Item} {kind : ObjectKind}
    (fits : ∀ task ∈ tasks, task.Fits kind)
    (passage : Passage dryRun one tasks items exchanges after) :
    List.Forall₂ (fun name item => ∀ id, item.identifier = some id → item.name = name)
      (tasks.map Task.remoteName) items := by
  induction passage with
  | done remote => exact .nil
  | next fares _ ih =>
      refine .cons ?_ (ih fun task member => fits task (List.mem_cons_of_mem _ member))
      intro id known
      cases fares with
      | settled item log => rfl
      | converge fares => exact fares.name_of_identified known

/-- After a stage the identifiers that the runs know are the same, but for the one name. -/
theorem Passage.registriesAlike {tasks tasks' : List Task} {items items' : List Item}
    (names : tasks'.map Task.remoteName = tasks.map Task.remoteName)
    (fits : ∀ task ∈ tasks, task.Fits .optionSet) (fits' : ∀ task ∈ tasks', task.Fits .optionSet)
    (twins : TwinItems off (start.Lacks .optionSet) (tasks.map Task.remoteName) items items')
    (alike : AlikeOff off start after after')
    (passage : Passage dryRun one tasks items exchanges after)
    (passage' : Passage dryRun two tasks' items' exchanges' after') :
    RegistriesAlike off start (Registry.identifiersOf items) (Registry.identifiersOf items') := by
  intro name other
  have named := passage.named_of_identified fits
  have named' := passage'.named_of_identified fits'
  rw [names] at named'
  cases known : (Registry.identifiersOf items).get? name with
  | none =>
      have unknown : (Registry.identifiersOf items').get? name = none := by
        rw [← Option.not_isSome_iff_eq_none, ← OrderedMap.contains]
        intro known'
        obtain ⟨id, present⟩ := OrderedMap.contains_iff.mp (twins.symm.known other named' known')
        rw [known] at present
        cases present
      rw [unknown]
      exact .same none
  | some id =>
      obtain ⟨id', known'⟩ := OrderedMap.contains_iff.mp
        (twins.known other named (OrderedMap.contains_iff.mpr ⟨id, known⟩))
      have stores := alike.stores .optionSet name other
      rw [passage.stored_of_known fits known, passage'.stored_of_known fits' known'] at stores
      rw [known']
      cases stores with
      | same => exact .same _
      | fresh new => exact .fresh new

end

/-! ## Runs -/

section

variable {settings : SchemaSettings} {ids : OrderedMap String} {m : Model}

theorem map_remoteName_optionSetTasks :
    (optionSetTasks settings m).map Task.remoteName = m.remoteNames settings .optionSet := by
  rw [optionSetTasks_eq, List.map_map, Model.remoteNames, Model.enumNames, List.map_map]
  rfl

theorem map_remoteName_tableTasks :
    (tableTasks settings ids m).map Task.remoteName = m.remoteNames settings .table := by
  rw [tableTasks_eq, List.map_map, Model.remoteNames]
  refine List.map_congr_left fun t _ => ?_
  rw [Function.comp_apply, Task.ofTable]
  split <;> rfl

theorem map_remoteName_relationshipTasks (before : List String) (rs : List Relationship) :
    (relationshipTasks settings before rs).map Task.remoteName =
      rs.map Relationship.schemaName := by
  induction rs generalizing before with
  | nil => rfl
  | cons r rest ih =>
      rw [relationshipTasks_cons]
      split
      · rw [List.map_cons, List.map_cons, ih]
        rfl
      · rw [List.map_cons, List.map_cons, ih]
        rfl

theorem Visit.isolated {dryRun : Bool} {off : String} {remote start after after' : MemoryRemote}
    {one two : Summary} {exchanges exchanges' : List Exchange}
    (alike : AlikeOff off remote remote start)
    (visit : Visit dryRun settings m remote one exchanges after)
    (visit' : Visit dryRun settings m start two exchanges' after') :
    (∀ kind, TwinItems off (remote.Lacks kind) (m.remoteNames settings kind)
        (one.report kind).items (two.report kind).items) ∧
      List.Forall₂ (Exchange.Twin remote (TablePayload.AlikeOff m settings off remote))
        (exchangesOff off exchanges) (exchangesOff off exchanges') := by
  obtain ⟨first, second, third, fourth⟩ := visit
  obtain ⟨first', second', third', fourth'⟩ := visit'
  have fits := fun (stage : Stage) ids task => @Stage.fits stage settings ids m task
  have plain := fun (stage : Stage) =>
    @Stage.twins (TablePayload.AlikeOff m settings off remote) settings .empty .empty m stage
      fun t member key _ => Table.payload_alikeOff member (fun name _ => .same _) key
  obtain ⟨optionSets, calls₁, alike₁⟩ := Passage.isolated (plain .optionSets)
    (fits .optionSets .empty) (fits .optionSets .empty) alike first first'
  have known := first.registriesAlike rfl (fits .optionSets .empty) (fits .optionSets .empty)
    optionSets alike₁ first'
  obtain ⟨tables, calls₂, alike₂⟩ := Passage.isolated
    (Stage.twins .tables fun t member key _ => Table.payload_alikeOff member known key)
    (fits .tables _) (fits .tables _) alike₁ second second'
  obtain ⟨relationships, calls₃, alike₃⟩ := Passage.isolated (plain .tableRelationships)
    (fits .tableRelationships .empty) (fits .tableRelationships .empty) alike₂ third third'
  obtain ⟨userRelationships, calls₄, -⟩ := Passage.isolated (plain .userRelationships)
    (fits .userRelationships .empty) (fits .userRelationships .empty) alike₃ fourth fourth'
  constructor
  · intro kind
    cases kind with
    | optionSet =>
        rw [← map_remoteName_optionSetTasks]
        exact optionSets
    | table =>
        rw [← map_remoteName_tableTasks]
        exact tables
    | relationship =>
        have both := relationships.append userRelationships
        rw [Stage.tasks, Stage.tasks, map_remoteName_relationshipTasks,
          map_remoteName_relationshipTasks, ← List.map_append] at both
        exact both
  · simp only [exchangesOff_append]
    exact List.rel_append calls₁ (List.rel_append calls₂ (List.rel_append calls₃ calls₄))

end

/-- **Isolation.** Take two runs of a model on one remote, dry or not, with failures that differ
for one name only. Every object of another name comes to the same outcome, error and note in both
runs, and the calls about other names are the same in both, and so are the answers, except that new
objects may have other identifiers, and that the payload of a table may differ in the columns that
choose from the option set of the one name. -/
theorem Model.isolates (m : Model) (settings : SchemaSettings) (dryRun : Bool)
    {remote : MemoryRemote} (texts : remote.HoldsTexts) (off : String)
    (failures : List (CallName × RemoteFailure))
    (elsewhere : ∀ name, name ≠ off →
      failures.lookup (.find name) = remote.failures.lookup (.find name) ∧
        failures.lookup (.create name) = remote.failures.lookup (.create name)) :
    ∃ one two, (m.deploy (some client) settings dryRun remote).result = .ok one ∧
      (m.deploy (some client) settings dryRun (remote.withFailures failures)).result = .ok two ∧
      (∀ kind, TwinItems off (remote.Lacks kind) (m.remoteNames settings kind)
        (one.report kind).items (two.report kind).items) ∧
      List.Forall₂ (Exchange.Twin remote (TablePayload.AlikeOff m settings off remote))
        (exchangesOff off (m.exchanges client settings dryRun remote))
        (exchangesOff off
          (m.exchanges client settings dryRun (remote.withFailures failures))) := by
  obtain ⟨one, result, visit⟩ := m.visit settings dryRun texts
  obtain ⟨two, result', visit'⟩ := m.visit settings dryRun (texts.withFailures failures)
  have alike : AlikeOff off remote remote (remote.withFailures failures) :=
    { finds := fun name other => (elsewhere name other).1
      creates := fun name other => (elsewhere name other).2
      stores := fun kind name _ => by
        rw [store_withFailures]
        exact .same _
      grown := fun _ _ lacks => lacks
      texts := texts.withFailures failures }
  exact ⟨one, two, result, result', visit.isolated alike visit'⟩

/-- A source with objects of all kinds, where the creation of its option set is refused. -/
theorem Model.isolates_optionSet :
    empty.HoldsTexts ∧
      (∀ name, name ≠ "new_s" →
        choiceRefused.lookup (.find name) = empty.failures.lookup (.find name) ∧
          choiceRefused.lookup (.create name) = empty.failures.lookup (.create name)) ∧
      ∃ m, Model.ofText {} false choiceAndUser = .ok m ∧
        ∃ one two, (m.deploy (some client) {} false empty).result = .ok one ∧
          (m.deploy (some client) {} false (empty.withFailures choiceRefused)).result = .ok two ∧
          (∀ kind, TwinItems "new_s" (empty.Lacks kind) (m.remoteNames {} kind)
            (one.report kind).items (two.report kind).items) ∧
          List.Forall₂ (Exchange.Twin empty (TablePayload.AlikeOff m {} "new_s" empty))
            (exchangesOff "new_s" (m.exchanges client {} false empty))
            (exchangesOff "new_s"
              (m.exchanges client {} false (empty.withFailures choiceRefused))) := by
  have elsewhere : ∀ name, name ≠ "new_s" →
      choiceRefused.lookup (.find name) = empty.failures.lookup (.find name) ∧
        choiceRefused.lookup (.create name) = empty.failures.lookup (.create name) := by
    intro name other
    have miss : (CallName.create name == .create "new_s") = false := by simpa using other
    refine ⟨rfl, ?_⟩
    rw [choiceRefused, List.lookup_cons, miss]
    rfl
  obtain ⟨m, read⟩ := exists_ofText_choiceAndUser
  exact ⟨holdsTexts_empty, elsewhere, m, read,
    m.isolates {} false holdsTexts_empty "new_s" _ elsewhere⟩

end ErdDeploy
