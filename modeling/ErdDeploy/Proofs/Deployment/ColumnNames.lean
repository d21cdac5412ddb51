import ErdDeploy.Proofs.Data.Lists
import ErdDeploy.Proofs.Deployment.Coverage
import ErdDeploy.Proofs.Schema.Requiredness
import ErdDeploy.Proofs.Text.LowerCase

/-!
The names of the columns of a table.

A remote table gets its columns from three sides: its payload brings the attributes, the
relationships into other tables bring lookups, and the platform brings a key of its own
(`Model.columnNames`). Fields are told apart by their declared names and relationships by
theirs, but nothing compares the names of the columns. So two columns of a table can come
to one name (`Model.not_columnsApart`).

How they can is told exactly. A column that is called after its field has the name of
another field in lower case, or of the platform's key (`Model.FieldsApart`). A lookup,
which is called after its reference and its relationship, has the name of another lookup
or of a field (`Model.LookupsApart`), but never that of the key, since it has one
underscore more. If the tables that are referred to begin with a capital, lookups are
told apart by it, and only fields remain (`Model.columnNames_nodup_iff`).
-/

namespace ErdDeploy

/-! ## Names of lookups -/

namespace NamingRules

variable (rules : NamingRules)

/-- The name of the lookup that a reference brings. -/
def lookupColumnName (field fromTable toTable : String) : String :=
  rules.columnName field ++ rules.relationshipName fromTable toTable

theorem toList_columnName (field : String) : (rules.columnName field).toList =
    Text.lower (rules.nameSpace.toList ++ field.toList) := by
  rw [columnName, qualified, Text.lowerString, String.toList_ofList, String.toList_append]

theorem toList_lookupColumnName (field fromTable toTable : String) :
    (rules.lookupColumnName field fromTable toTable).toList =
      Text.lower (rules.nameSpace.toList ++ field.toList) ++ rules.nameSpace.toList ++
        (fromTable.toList ++ '_' :: toTable.toList) := by
  have mark : "_".toList = ['_'] := rfl
  simp only [lookupColumnName, relationshipName, String.toList_append, toList_columnName, mark,
    List.append_assoc, List.singleton_append]

/-- The remote name of a table has no more underscores than the namespace and the table. -/
theorem count_underscore_tableName_le (table : String) : (rules.tableName table).toList.count '_' ≤
    rules.nameSpace.toList.count '_' + table.toList.count '_' := by
  unfold tableName
  split
  · rw [unmarked, String.toList_ofList, Text.count_underscore_lower]
    exact Nat.le_trans ((List.drop_sublist _ _).count_le '_') (Nat.le_add_left _ _)
  · refine Nat.le_of_eq ?_
    rw [qualified, Text.lowerString, String.toList_ofList, Text.count_underscore_lower,
      String.toList_append, List.count_append]

/-- A lookup is never called like the key of a table that its own table is stored as. -/
theorem lookupColumnName_ne_keyName {toTable table : String}
    (same : rules.tableName toTable = rules.tableName table) (field fromTable : String) :
    rules.lookupColumnName field fromTable toTable ≠ rules.keyName table := by
  intro meet
  have counts := congrArg (fun name => name.toList.count '_') meet
  have suffix : "id".toList.count '_' = 0 := rfl
  have few := rules.count_underscore_tableName_le toTable
  simp only [toList_lookupColumnName, keyName, ← same, String.toList_append, List.count_append,
    List.count_cons_self, suffix] at counts
  omega

section

variable {rules} {field fromTable toTable : String}

/-- No capital is left in what stands before the names of the tables. -/
theorem not_isCapital_front (small : Text.lowerString rules.nameSpace = rules.nameSpace)
    (field : String) : ∀ c ∈ Text.lower (rules.nameSpace.toList ++ field.toList) ++
      rules.nameSpace.toList, ¬ Text.IsCapital c := by
  intro c member capital
  rcases List.mem_append.mp member with lowered | inNameSpace
  · exact capital _ lowered
  · rw [← small, Text.lowerString, String.toList_ofList] at inNameSpace
    exact capital _ inNameSpace

/-- Lookups of tables that begin with a capital share a name only within a relationship. -/
theorem relationshipName_eq_of_lookupColumnName_eq
    (small : Text.lowerString rules.nameSpace = rules.nameSpace)
    {field' fromTable' toTable' : String} {c c' : Char} {rest rest' : List Char}
    (begins : fromTable.toList = c :: rest) (begins' : fromTable'.toList = c' :: rest')
    (capital : Text.IsCapital c) (capital' : Text.IsCapital c')
    (same : rules.lookupColumnName field fromTable toTable =
      rules.lookupColumnName field' fromTable' toTable') :
    rules.relationshipName fromTable toTable = rules.relationshipName fromTable' toTable' := by
  have lists := congrArg String.toList same
  rw [toList_lookupColumnName, toList_lookupColumnName, begins, begins', List.cons_append,
    List.cons_append] at lists
  have behind := eq_of_append_cons_eq lists (not_isCapital_front small field)
    (not_isCapital_front small field') capital capital'
  have mark : "_".toList = ['_'] := rfl
  rw [← String.toList_inj]
  simp only [relationshipName, String.toList_append, List.append_assoc, begins, begins', mark]
  exact congrArg (rules.nameSpace.toList ++ ·) behind

/-- The lookup of a table that begins with a capital is never called after a field. -/
theorem lookupColumnName_ne_columnName {c : Char} {rest : List Char}
    (begins : fromTable.toList = c :: rest) (capital : Text.IsCapital c) (other : String) :
    rules.lookupColumnName field fromTable toTable ≠ rules.columnName other := by
  intro meet
  have lists := congrArg String.toList meet
  rw [toList_lookupColumnName, toList_columnName, begins] at lists
  refine capital (rules.nameSpace.toList ++ other.toList) ?_
  rw [← lists]
  simp

end

end NamingRules

/-! ## Relationships by name -/

namespace Relationship

/-- The relationships that are the first of their names; `seen` holds the names that came
before. -/
def firsts (seen : List String) : List Relationship → List Relationship
  | [] => []
  | r :: rest =>
    if r.schemaName ∈ seen then firsts seen rest
    else r :: firsts (r.schemaName :: seen) rest

theorem firsts_sublist (seen : List String) (relationships : List Relationship) :
    (firsts seen relationships).Sublist relationships := by
  induction relationships generalizing seen with
  | nil => exact .slnil
  | cons r rest ih =>
      rw [firsts]
      split
      · exact (ih seen).cons r
      · exact (ih _).cons_cons r

theorem not_mem_seen_of_mem_firsts {seen : List String} {relationships : List Relationship}
    {r : Relationship} (member : r ∈ firsts seen relationships) : r.schemaName ∉ seen := by
  induction relationships generalizing seen with
  | nil => cases member
  | cons first rest ih =>
      rw [firsts] at member
      split at member
      · exact ih member
      · next new =>
        rcases List.mem_cons.mp member with rfl | later
        · exact new
        · exact fun before => ih later (List.mem_cons_of_mem _ before)

theorem pairwise_firsts (seen : List String) (relationships : List Relationship) :
    (firsts seen relationships).Pairwise fun r r' => r.schemaName ≠ r'.schemaName := by
  induction relationships generalizing seen with
  | nil => exact .nil
  | cons first rest ih =>
      rw [firsts]
      split
      · exact ih seen
      · refine List.pairwise_cons.mpr ⟨fun r member same => ?_, ih _⟩
        exact not_mem_seen_of_mem_firsts member (same ▸ List.mem_cons_self)

end Relationship

/-! ## Columns of a table -/

namespace Model

/-- The relationships that bring a column to a remote table, each name once. -/
def broughtTo (m : Model) (entity : String) : List Relationship :=
  Relationship.firsts []
    ((m.relationships ++ m.userRelationships).filter fun r => r.referencingEntity == entity)

/-- The names of all columns of a table: its attributes, its lookups, and the platform's key. -/
def columnNames (m : Model) (rules : NamingRules) (t : Table) (payload : TablePayload) :
    List String :=
  payload.attributes.map (fun a => a.schemaName) ++
    (m.broughtTo t.schemaName).map Relationship.lookupSchemaName ++ [rules.keyName t.name]

/-- The relationships with the table of users that bring a column to a table. -/
def userLookups (m : Model) (t : Table) : List Relationship :=
  (m.broughtTo t.schemaName).filter fun r => r.kind == .systemUser

/-- The relationships with declared tables that bring a column to a table. -/
def tableLookups (m : Model) (t : Table) : List Relationship :=
  (m.broughtTo t.schemaName).filter fun r => !(r.kind == .systemUser)

/-- The names of the fields after which columns of a table are called. -/
def fieldNames (m : Model) (t : Table) (key : Field) : List String :=
  (key :: t.attributeFields).map Field.name ++
    (m.userLookups t).map Relationship.lookupDisplayName

/-- Columns that are called after fields are told apart, and none is called like the key of the
platform. -/
structure FieldsApart (m : Model) (rules : NamingRules) (t : Table) (key : Field) : Prop where
  distinct : ((m.fieldNames t key).map rules.columnName).Nodup
  noKey : ∀ name ∈ m.fieldNames t key, rules.columnName name ≠ rules.keyName t.name

/-- Lookups are told apart, and none is called like the column of a field. -/
structure LookupsApart (m : Model) (rules : NamingRules) (t : Table) (key : Field) : Prop where
  distinct : ((m.tableLookups t).map Relationship.lookupSchemaName).Nodup
  noField : ∀ r ∈ m.tableLookups t, ∀ name ∈ m.fieldNames t key,
    r.lookupSchemaName ≠ rules.columnName name

/-- The namespace is in lower case, and every table that is referred to begins with a capital. -/
structure Capitalized (m : Model) (rules : NamingRules) : Prop where
  nameSpace : Text.lowerString rules.nameSpace = rules.nameSpace
  fromTable : ∀ r ∈ m.effective, ∃ c rest, r.fromTable.toList = c :: rest ∧ Text.IsCapital c

/-- Columns are not always told apart: the names of these fields differ in case only. -/
theorem not_columnsApart :
    ¬ ∀ (text : String) (strict : Bool) (settings : SchemaSettings) (m : Model)
      (known : OrderedMap String), ofText settings.naming strict text = .ok m →
      (∀ enum ∈ m.enumNames, known.contains (settings.naming.optionSetName enum) = true) →
        ∀ t ∈ m.creatableTables, ∀ made ∈ (TablePayload.ofTable settings known t).toOption,
          (m.columnNames settings.naming t made.1).Nodup := by
  intro apart
  have lost : ((ofText {} true "Table T \x7b\nid GUID [pk]\na Int\nA Int\n\x7d").toOption.map
      fun m => (m.enumNames, decide (∀ t ∈ m.creatableTables,
        ∀ made ∈ (TablePayload.ofTable {} .empty t).toOption,
          (m.columnNames {} t made.1).Nodup))) = some ([], false) := by
    decide +kernel
  obtain ⟨m, read, both⟩ := exists_of_toOption_map lost
  obtain ⟨names, together⟩ := Prod.mk.inj both
  exact of_decide_eq_false together (apart _ true {} m .empty read (by rw [names]; simp))

section

variable {rules : NamingRules} {declared : OrderedMap Table} {m : Model} {t : Table}
  {r : Relationship}

/-- A relationship that brings a column is that of a reference into the table, or is called after
the field that refers to a user. -/
theorem broughtTo_cases (origin : m.Origin rules declared)
    (member : r ∈ m.broughtTo t.schemaName) :
    (r.kind = .table ∧ ∃ ref ∈ m.effective, rules.tableName ref.toTable = t.schemaName ∧
      r = Relationship.ofReference rules m.tables ref) ∨
    r.kind = .systemUser ∧ r.lookupSchemaName = rules.columnName r.lookupDisplayName := by
  obtain ⟨among, entity⟩ := List.mem_filter.mp ((Relationship.firsts_sublist _ _).mem member)
  rw [beq_iff_eq] at entity
  rcases List.mem_append.mp among with byReference | byUser
  · rw [origin.relationships, Relationship.resolve] at byReference
    obtain ⟨ref, effective, rfl⟩ := List.mem_map.mp byReference
    exact Or.inl ⟨rfl, ref, effective, entity, rfl⟩
  · rw [origin.userRelationships, Relationship.resolveUsers, List.mem_flatMap] at byUser
    obtain ⟨other, -, inTable⟩ := byUser
    obtain ⟨f, -, rfl⟩ := List.mem_map.mp inTable
    exact Or.inr ⟨rfl, rfl⟩

theorem lookupSchemaName_of_userLookups (origin : m.Origin rules declared)
    (member : r ∈ m.userLookups t) :
    r.lookupSchemaName = rules.columnName r.lookupDisplayName := by
  obtain ⟨brought, user⟩ := List.mem_filter.mp member
  rcases broughtTo_cases origin brought with ⟨table, -⟩ | ⟨-, named⟩
  · rw [table] at user
    cases user
  · exact named

theorem exists_reference_of_tableLookups (origin : m.Origin rules declared)
    (member : r ∈ m.tableLookups t) :
    ∃ ref ∈ m.effective, rules.tableName ref.toTable = t.schemaName ∧
      r.schemaName = rules.relationshipName ref.fromTable ref.toTable ∧
      r.lookupSchemaName = rules.lookupColumnName ref.toField ref.fromTable ref.toTable := by
  obtain ⟨brought, table⟩ := List.mem_filter.mp member
  rcases broughtTo_cases origin brought with ⟨-, ref, effective, entity, rfl⟩ | ⟨user, -⟩
  · exact ⟨ref, effective, entity, rfl, rfl⟩
  · rw [user] at table
    cases table

/-- No lookup is called like the key of its table. -/
theorem lookupSchemaName_ne_keyName (origin : m.Origin rules declared)
    (stored : m.tables.get? t.name = some t) (member : r ∈ m.tableLookups t) :
    r.lookupSchemaName ≠ rules.keyName t.name := by
  obtain ⟨ref, -, entity, -, named⟩ := exists_reference_of_tableLookups origin member
  rw [named]
  exact rules.lookupColumnName_ne_keyName (entity.trans (origin.schemaName stored)) _ _

/-- Capitals tell lookups apart. -/
theorem lookupsApart_of_capitalized (origin : m.Origin rules declared)
    (capitals : m.Capitalized rules) (key : Field) : m.LookupsApart rules t key := by
  constructor
  · rw [List.nodup_iff_pairwise_ne, List.pairwise_map]
    refine ((Relationship.pairwise_firsts [] _).filter _).imp_of_mem ?_
    intro r r' member member' differ same
    obtain ⟨ref, effective, -, name, named⟩ := exists_reference_of_tableLookups origin member
    obtain ⟨ref', effective', -, name', named'⟩ :=
      exists_reference_of_tableLookups origin member'
    obtain ⟨c, rest, begins, capital⟩ := capitals.fromTable ref effective
    obtain ⟨c', rest', begins', capital'⟩ := capitals.fromTable ref' effective'
    rw [named, named'] at same
    rw [name, name'] at differ
    exact differ (NamingRules.relationshipName_eq_of_lookupColumnName_eq capitals.nameSpace begins
      begins' capital capital' same)
  · intro r member name _
    obtain ⟨ref, effective, -, -, named⟩ := exists_reference_of_tableLookups origin member
    obtain ⟨c, rest, begins, capital⟩ := capitals.fromTable ref effective
    rw [named]
    exact NamingRules.lookupColumnName_ne_columnName begins capital name

end

section

variable {settings : SchemaSettings} {declared : OrderedMap Table} {m : Model} {t : Table}
  {known : OrderedMap String} {payload : TablePayload} {warnings : List LogEntry} {key : Field}

/-- The columns of a table are those called after fields, its lookups, and the key. -/
theorem columnNames_perm (origin : m.Origin settings.naming declared)
    (stored : m.tables.get? t.name = some t)
    (available : ∀ enum ∈ m.enumNames,
      known.contains (settings.naming.optionSetName enum) = true)
    (planned : TablePayload.ofTable settings known t = .ok (payload, warnings))
    (display : t.displayField = .ok key) :
    (m.columnNames settings.naming t payload).Perm
      ((m.fieldNames t key).map settings.naming.columnName ++
        ((m.tableLookups t).map Relationship.lookupSchemaName ++
          [settings.naming.keyName t.name])) := by
  obtain ⟨other, display', rfl⟩ := TablePayload.ofTable_inv planned
  rw [display] at display'
  cases display'
  have bound : t.attributeFields.filter (Field.isBound settings known) = t.attributeFields :=
    List.filter_eq_self.mpr fun f member =>
      isBound_of_available origin stored available f (Table.mem_attributeFields.mp member).1
  have attributes : (attributesOf settings known t.attributeFields).1.map
      (fun a => a.schemaName) =
        t.attributeFields.map fun f => settings.naming.columnName f.name := by
    have agree : ∀ field column, Attribute.ofField settings known field = .ok column →
        column.schemaName = settings.naming.columnName field.name := by
      intro field column made
      rw [Attribute.head_ofField made]
      rfl
    rw [attributesOf_map agree, bound]
  have users : (m.userLookups t).map Relationship.lookupSchemaName =
      ((m.userLookups t).map Relationship.lookupDisplayName).map settings.naming.columnName := by
    rw [List.map_map]
    exact List.map_congr_left fun r member => lookupSchemaName_of_userLookups origin member
  have brought := (List.filter_append_perm (fun r => r.kind == .systemUser)
    (m.broughtTo t.schemaName)).symm.map Relationship.lookupSchemaName
  rw [List.map_append] at brought
  change List.Perm _ ((m.userLookups t).map _ ++ (m.tableLookups t).map _) at brought
  rw [users] at brought
  have parts := ((brought.append_left ((key :: t.attributeFields).map
    fun f => settings.naming.columnName f.name)).append_right [settings.naming.keyName t.name])
  simp only [columnNames, fieldNames, List.map_append, List.map_map, List.map_cons,
    List.append_assoc, List.cons_append, attributes] at parts ⊢
  exact parts

/-- The columns of a table are told apart exactly if the fields and the lookups are. -/
theorem nodup_columnNames (origin : m.Origin settings.naming declared)
    (stored : m.tables.get? t.name = some t)
    (available : ∀ enum ∈ m.enumNames,
      known.contains (settings.naming.optionSetName enum) = true)
    (planned : TablePayload.ofTable settings known t = .ok (payload, warnings))
    (display : t.displayField = .ok key) :
    (m.columnNames settings.naming t payload).Nodup ↔
      m.FieldsApart settings.naming t key ∧ m.LookupsApart settings.naming t key := by
  rw [(columnNames_perm origin stored available planned display).nodup_iff, List.nodup_append,
    List.nodup_append]
  constructor
  · rintro ⟨fields, ⟨lookups, -, -⟩, differ⟩
    refine ⟨⟨fields, fun name member => ?_⟩, ⟨lookups, fun r member name among => ?_⟩⟩
    · exact differ _ (List.mem_map_of_mem member) _ (by simp)
    · exact (differ _ (List.mem_map_of_mem among) _
        (List.mem_append_left _ (List.mem_map_of_mem member))).symm
  · rintro ⟨fields, lookups⟩
    refine ⟨fields.distinct, ⟨lookups.distinct, by simp, ?_⟩, ?_⟩
    · intro name member other last
      obtain ⟨r, among, rfl⟩ := List.mem_map.mp member
      rw [List.mem_singleton.mp last]
      exact lookupSchemaName_ne_keyName origin stored among
    · intro name member other among
      obtain ⟨field, fieldMember, rfl⟩ := List.mem_map.mp member
      rcases List.mem_append.mp among with lookup | last
      · obtain ⟨r, lookupMember, rfl⟩ := List.mem_map.mp lookup
        exact (lookups.noField r lookupMember field fieldMember).symm
      · rw [List.mem_singleton.mp last]
        exact fields.noKey field fieldMember

end

/-- **Names of columns.** If the option sets of all enums are known, the columns of a table that
can be created have distinct names exactly if its fields are told apart in lower case, from each
other and from the key, and its lookups from each other and from the fields. Where the tables that
are referred to begin with capitals, it hangs on the fields alone. -/
theorem columnNames_nodup_iff {settings : SchemaSettings} {strict : Bool} {text : String}
    {m : Model} {known : OrderedMap String} (read : ofText settings.naming strict text = .ok m)
    (available : ∀ enum ∈ m.enumNames,
      known.contains (settings.naming.optionSetName enum) = true)
    {t : Table} (creatable : t ∈ m.creatableTables) {key : Field}
    (display : t.displayField = .ok key) :
    ∃ payload warnings, TablePayload.ofTable settings known t = .ok (payload, warnings) ∧
      ((m.columnNames settings.naming t payload).Nodup ↔
        m.FieldsApart settings.naming t key ∧ m.LookupsApart settings.naming t key) ∧
      (m.Capitalized settings.naming →
        ((m.columnNames settings.naming t payload).Nodup ↔
          m.FieldsApart settings.naming t key)) := by
  obtain ⟨declared, -, origin⟩ := origin_of_ofText read
  have stored := origin.get?_of_mem_values (List.mem_filter.mp creatable).1
  have planned : ∃ payload warnings,
      TablePayload.ofTable settings known t = .ok (payload, warnings) := by
    rw [TablePayload.ofTable, display]
    exact ⟨_, _, rfl⟩
  obtain ⟨payload, warnings, planned⟩ := planned
  have apart := nodup_columnNames origin stored available planned display
  refine ⟨payload, warnings, planned, apart, fun capitals => ?_⟩
  rw [apart]
  exact and_iff_left (lookupsApart_of_capitalized origin capitals key)

/-- A table with a choice, a user, and a lookup for a table that begins with a capital. -/
def capitalLookup : String :=
  "Enum S \x7b\nA\n\x7d\nTable C \x7b\nid GUID [pk]\n\x7d\nTable I \x7b\n" ++
    "id GUID [pk]\ns S\nowner Person\nc GUID\n\x7d\nRef: C.id < I.c"

theorem columnNames_nodup_iff_of_capital :
    ∃ m t key, ofText {} true capitalLookup = .ok m ∧
      (∀ enum ∈ m.enumNames, (OrderedMap.ofList [("new_s", "id-1")]).contains
        (NamingRules.optionSetName {} enum) = true) ∧
      t ∈ m.creatableTables ∧ t.name = "I" ∧ t.displayField = .ok key ∧ m.Capitalized {} ∧
      ∃ payload warnings,
        TablePayload.ofTable {} (.ofList [("new_s", "id-1")]) t = .ok (payload, warnings) ∧
        ((m.columnNames {} t payload).Nodup ↔ m.FieldsApart {} t key ∧ m.LookupsApart {} t key) ∧
        (m.Capitalized {} → ((m.columnNames {} t payload).Nodup ↔ m.FieldsApart {} t key)) := by
  have parts : (ofText {} true capitalLookup).toOption.map
        (fun m => (m.enumNames, m.effective.map Reference.fromTable,
          m.creatableTables[1]?.map fun t => (t.name, t.displayField.isOk))) =
      some (["S"], ["C"], some ("I", true)) := by
    decide +kernel
  have known : (OrderedMap.ofList [("new_s", "id-1")]).contains
      (NamingRules.optionSetName {} "S") = true := by
    decide +kernel
  have small : Text.lowerString "new_" = "new_" := by decide +kernel
  obtain ⟨m, read, all⟩ := exists_of_toOption_map parts
  obtain ⟨names, rest⟩ := Prod.mk.inj all
  obtain ⟨sources, second⟩ := Prod.mk.inj rest
  obtain ⟨t, found, facts⟩ := Option.map_eq_some_iff.mp second
  obtain ⟨named, display⟩ := Prod.mk.inj facts
  obtain ⟨f, key⟩ := exists_of_isOk display
  have available : ∀ enum ∈ m.enumNames, (OrderedMap.ofList [("new_s", "id-1")]).contains
      (NamingRules.optionSetName {} enum) = true := by
    intro enum member
    rw [names, List.mem_singleton] at member
    rw [member, known]
  have capitals : m.Capitalized {} := by
    refine ⟨small, fun r member => ⟨'C', [], ?_, Text.isCapital_of_isUpper (by decide)⟩⟩
    have source := List.mem_map_of_mem (f := Reference.fromTable) member
    rw [sources, List.mem_singleton] at source
    rw [source]
    rfl
  have creatable := List.mem_of_getElem? found
  exact ⟨m, t, f, read, available, creatable, named, key, capitals,
    @columnNames_nodup_iff {} _ _ _ _ read available t creatable f key⟩

end Model

end ErdDeploy
