import ErdDeploy.Proofs.Deployment.CreatedTables

/-!
Recovering from a run that failed in places.

Two runs follow each other: a first one in which calls fail, and a second one in which
none does. They leave the same names behind as a single run without failures, and they
create the same tables, but not with the same columns: a table that the first run
created is left as it is, and so it lacks for good the columns of those enums whose
option sets the first run could not create (`Model.recovers`).
-/

namespace ErdDeploy

open MemoryRemote

/-! ## A failed run and the run after it -/

section

variable {settings : SchemaSettings} {m : Model} {remote start after alone : MemoryRemote}
  {one two three : Summary} {exchanges exchanges' undisturbed : List Exchange}

/-- Two runs leave the names that a single run without failures leaves. -/
theorem Visit.recover_names (first : Visit false settings m remote one exchanges start)
    (second : Visit false settings m (start.withFailures []) two exchanges' after)
    (single : Visit false settings m (remote.withFailures []) three undisturbed alone)
    (kind : ObjectKind) (name : String) :
    name ∈ (after.store kind).names ↔ name ∈ (alone.store kind).names := by
  rw [second.mem_names_iff rfl, single.mem_names_iff rfl, store_withFailures,
    store_withFailures, first.growth.names, List.mem_append]
  constructor
  · rintro ((before | created) | declared)
    · exact Or.inl before
    · exact Or.inr (first.declared created)
    · exact Or.inr declared
  · rintro (before | declared)
    · exact Or.inl (Or.inl before)
    · exact Or.inr declared

/-- A table that the first run did not create has the columns of a single run, and one that it
did create those that the option sets of the first run gave it. -/
theorem Visit.recover_columns (first : Visit false settings m remote one exchanges start)
    (second : Visit false settings m (start.withFailures []) two exchanges' after)
    (single : Visit false settings m (remote.withFailures []) three undisturbed alone)
    (name : String) :
    ((createdTables exchanges).lookup name = none →
        (createdTables (exchanges ++ exchanges')).lookup name =
          (createdTables undisturbed).lookup name) ∧
      ∀ columns, (createdTables exchanges).lookup name = some columns →
        columnsFor settings one.registry.optionSets name m.tables.values = some columns ∧
        (createdTables (exchanges ++ exchanges')).lookup name = some columns ∧
        (createdTables undisturbed).lookup name =
          columnsFor settings three.registry.optionSets name m.tables.values := by
  obtain ⟨open₁, shut₁⟩ := first.lookup_createdTables name
  obtain ⟨open₂, shut₂⟩ := second.lookup_createdTables name
  obtain ⟨open₃, shut₃⟩ := single.lookup_createdTables name
  rw [admits_withFailures_nil] at open₂ shut₂ open₃ shut₃
  rw [createdTables_append, List.lookup_append]
  constructor
  · intro missed
    have created := lookup_createdTables_eq_none.mp missed
    -- Both runs without failures know the option sets of all enums, and no others.
    have known : ∀ other, two.registry.optionSets.contains other =
        three.registry.optionSets.contains other := by
      intro other
      rw [Bool.eq_iff_iff, second.contains_optionSets_iff (second.optionSets_unfailed rfl),
        single.contains_optionSets_iff (single.optionSets_unfailed rfl)]
    have free : name ∉ (start.store .table).names ↔ name ∉ (remote.store .table).names := by
      rw [first.growth.names, List.mem_append, not_or, and_iff_left created]
    rw [missed, Option.none_or]
    by_cases absent : name ∉ (remote.store .table).names
    · rw [open₂ (free.mpr absent), open₃ absent, columnsFor_congr known]
    · rw [shut₂ fun gone => absent (free.mp gone), shut₃ absent]
  · intro columns made
    have admits : remote.Admits .table name := by
      by_contra refused
      rw [shut₁ refused] at made
      cases made
    refine ⟨(open₁ admits).symm.trans made, ?_, open₃ admits.absent⟩
    rw [made, Option.some_or]

end

namespace Model

/-- The exchanges of a run and of the one after it, when no call fails any more. -/
def recovery (m : Model) (settings : SchemaSettings) (remote : MemoryRemote) : List Exchange :=
  m.exchanges client settings false remote ++
    m.exchanges client settings false (m.mended settings remote)

/-- The exchanges of a run in which no call fails. -/
def undisturbed (m : Model) (settings : SchemaSettings) (remote : MemoryRemote) :
    List Exchange :=
  m.exchanges client settings false (remote.withFailures [])

/-- The run after a run leaves the same names behind as a single run without failures. -/
def RecoversNames (m : Model) (settings : SchemaSettings) (remote : MemoryRemote) : Prop :=
  ∀ kind name,
    name ∈ ((m.deploy (some client) settings false
      (m.mended settings remote)).state.store kind).names ↔
    name ∈ ((m.deploy (some client) settings false
      (remote.withFailures [])).state.store kind).names

/-- The tables that two runs have created have the columns that a single run without failures
creates them with. -/
def RecoversColumns (m : Model) (settings : SchemaSettings) (remote : MemoryRemote) : Prop :=
  ∀ name, (createdTables (m.recovery settings remote)).lookup name =
    (createdTables (m.undisturbed settings remote)).lookup name

/-- Columns are not always recovered: when the option set of an enum is refused, the table is
created without the column of the enum, and never touched again. -/
theorem not_recoversColumns :
    ¬ ∀ (text : String) (settings : SchemaSettings) (m : Model) (remote : MemoryRemote),
      Model.ofText settings.naming false text = .ok m → remote.HoldsTexts →
        m.RecoversNames settings remote ∧ m.RecoversColumns settings remote := by
  intro recovers
  have lost : ((Model.ofText {} false oneChoice).toOption.map fun m =>
        ((createdTables (m.recovery {} (empty.withFailures choiceRefused))).lookup "new_t",
          (createdTables (m.undisturbed {} (empty.withFailures choiceRefused))).lookup "new_t")) =
      some (some [("string", "new_id")], some [("string", "new_id"), ("picklist", "new_s")]) := by
    decide +kernel
  obtain ⟨m, read, both⟩ := exists_of_toOption_map lost
  obtain ⟨recovered, undisturbed⟩ := Prod.mk.inj both
  have columns := (recovers _ {} m _ read (holdsTexts_empty.withFailures choiceRefused)).2 "new_t"
  rw [recovered, undisturbed] at columns
  simp at columns

/-- **Recovery.** Whatever failed in a run on a remote that holds texts, the run after it leaves
the names that a single run without failures leaves. A table that the first run did not create has
the same columns; a table that it did create has those of its key and of the fields whose option
sets the first run knew, where a single run would have taken all option sets of the model. So the
columns are the same, too, unless an option set failed in the first run. -/
theorem recovers (m : Model) (settings : SchemaSettings) {remote : MemoryRemote}
    (texts : remote.HoldsTexts) :
    m.RecoversNames settings remote ∧
      ∃ one three,
        (m.deploy (some client) settings false remote).result = .ok one ∧
        (m.deploy (some client) settings false (remote.withFailures [])).result = .ok three ∧
        (∀ enum ∈ m.enumNames,
          three.registry.optionSets.contains (settings.naming.optionSetName enum) = true) ∧
        (∀ name,
          (createdTables (m.exchanges client settings false remote)).lookup name = none →
            (createdTables (m.recovery settings remote)).lookup name =
              (createdTables (m.undisturbed settings remote)).lookup name) ∧
        (∀ name columns,
          (createdTables (m.exchanges client settings false remote)).lookup name = some columns →
            ∃ table ∈ m.creatableTables, ∃ key,
              table.schemaName = name ∧ table.displayField = .ok key ∧
              (createdTables (m.recovery settings remote)).lookup name =
                some (table.columns settings one.registry.optionSets key) ∧
              (createdTables (m.undisturbed settings remote)).lookup name =
                some (table.columns settings three.registry.optionSets key)) ∧
        ((∀ item ∈ one.optionSets.items, item.outcome ≠ .failed) →
          m.RecoversColumns settings remote) := by
  obtain ⟨one, first, visit₁⟩ := m.visit settings false texts
  obtain ⟨two, -, visit₂⟩ :=
    m.visit settings false ((visit₁.growth.texts texts).withFailures [])
  obtain ⟨three, third, visit₃⟩ := m.visit settings false (texts.withFailures [])
  have columns := visit₁.recover_columns visit₂ visit₃
  have known : ∀ name, three.registry.optionSets.contains name = true ↔
      ∃ enum ∈ m.enumNames, settings.naming.optionSetName enum = name :=
    fun _ => visit₃.contains_optionSets_iff (visit₃.optionSets_unfailed rfl)
  refine ⟨visit₁.recover_names visit₂ visit₃, one, three, first, third, ?_, ?_, ?_, ?_⟩
  · exact fun enum declared => (known _).mpr ⟨enum, declared, rfl⟩
  · exact fun name => (columns name).1
  · intro name made created
    obtain ⟨here, both, alone⟩ := (columns name).2 made created
    obtain ⟨⟨table, key⟩, creator, rfl⟩ := Option.map_eq_some_iff.mp here
    obtain ⟨member, open', named, display⟩ := creatorOf_inv creator
    refine ⟨table, ?_, key, named, display, both, ?_⟩
    · exact List.mem_filter.mpr ⟨member, by simp [open']⟩
    · exact alone.trans (by rw [columnsFor, creator]; rfl)
  · intro fine name
    cases created : (createdTables (m.exchanges client settings false remote)).lookup name with
    | none => exact (columns name).1 created
    | some made =>
        obtain ⟨here, both, alone⟩ := (columns name).2 made created
        refine both.trans (here.symm.trans (Eq.trans ?_ alone.symm))
        refine columnsFor_congr (fun other => ?_) name _
        rw [Bool.eq_iff_iff, visit₁.contains_optionSets_iff fine, known]

/-- Recovery where the table could not be created at first, and its option set could. -/
theorem recovers_table_refused :
    (empty.withFailures tableRefused).HoldsTexts ∧
      ∃ m, Model.ofText {} false oneChoice = .ok m ∧
        m.RecoversNames {} (empty.withFailures tableRefused) ∧
        ∃ one,
          (m.deploy (some client) {} false (empty.withFailures tableRefused)).result = .ok one ∧
          ((∀ item ∈ one.optionSets.items, item.outcome ≠ .failed) →
            m.RecoversColumns {} (empty.withFailures tableRefused)) := by
  have texts := holdsTexts_empty.withFailures tableRefused
  obtain ⟨m, read⟩ := exists_ofText_oneChoice
  obtain ⟨names, one, -, first, -, -, -, -, columns⟩ := m.recovers {} texts
  exact ⟨texts, m, read, names, one, first, columns⟩

end Model

end ErdDeploy
