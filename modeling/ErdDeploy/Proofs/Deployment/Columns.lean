import ErdDeploy.Deployment.Build
import ErdDeploy.Proofs.Data.Results
import ErdDeploy.Schema.Model

/-!
The columns that a table is created with.

A field gets its column unless it chooses among the values of an enum whose option
set is not known (`Field.isBound`). So whatever of a column depends on its field
alone can be read off the fields that are bound, in their order
(`attributesOf_map`). `Table.columns` is such a reading: the kind and the name of
each column, beginning with the one that names the rows.
-/

namespace ErdDeploy

/-- Whether the column of a field can be made with the option sets that are known. -/
def Field.isBound (settings : SchemaSettings) (known : OrderedMap String) (field : Field) : Bool :=
  match field.enumName with
  | some enum => known.contains (settings.naming.optionSetName enum)
  | none => true

/-- The kind and the name of a column. -/
def Attribute.signature (a : Attribute) : String × String :=
  (a.kind.word, a.schemaName)

/-- The kind and the name that the column of a field has, once it is made. -/
def Field.signature (settings : SchemaSettings) (field : Field) : String × String :=
  let kind : AttributeKind := match field.enumName with
    | some _ => .picklist ""
    | none => .ofColumnType field.columnType field.maxLength
  (kind.word, settings.naming.columnName field.name)

/-- The columns of a table: that of its key, and those of its fields that are bound. -/
def Table.columns (settings : SchemaSettings) (known : OrderedMap String) (key : Field)
    (table : Table) : List (String × String) :=
  (Attribute.ofKey settings key).signature ::
    (table.attributeFields.filter (Field.isBound settings known)).map (Field.signature settings)

section

variable {settings : SchemaSettings} {known : OrderedMap String}

/-- A field has a column exactly if it is bound. -/
theorem Attribute.exists_ofField_iff {field : Field} :
    (∃ column, ofField settings known field = .ok column) ↔
      field.isBound settings known = true := by
  unfold ofField Field.isBound
  cases field.enumName with
  | none => simp
  | some enum =>
      simp only [OrderedMap.contains]
      cases known.get? (settings.naming.optionSetName enum) with
      | none => simp
      | some id => simp

/-- The head of a column is that of its field. -/
theorem Attribute.head_ofField {field : Field} {column : Attribute}
    (made : ofField settings known field = .ok column) :
    column.toAttributeHead = AttributeHead.ofField settings field := by
  unfold ofField at made
  cases choice : field.enumName with
  | none =>
      rw [choice] at made
      cases made
      rfl
  | some enum =>
      simp only [choice] at made
      split at made
      · cases made
        rfl
      · cases made

theorem Attribute.signature_ofField {field : Field} {column : Attribute}
    (made : ofField settings known field = .ok column) :
    column.signature = field.signature settings := by
  unfold ofField at made
  unfold Field.signature
  cases choice : field.enumName with
  | none =>
      rw [choice] at made
      cases made
      rfl
  | some enum =>
      simp only [choice] at made
      split at made
      · cases made
        rfl
      · cases made

/-- What a column shows of its field is shown by the columns of the bound fields, in order. -/
theorem attributesOf_map {β : Type} {read : Attribute → β} {view : Field → β}
    (agree : ∀ field column, Attribute.ofField settings known field = .ok column →
      read column = view field) (fields : List Field) :
    (attributesOf settings known fields).1.map read =
      (fields.filter (Field.isBound settings known)).map view := by
  induction fields with
  | nil => rfl
  | cons field fields ih =>
      rw [attributesOf]
      cases made : Attribute.ofField settings known field with
      | ok column =>
          have bound := Attribute.exists_ofField_iff.mp ⟨column, made⟩
          rw [List.map_cons, List.filter_cons_of_pos bound, List.map_cons, ih,
            agree field column made]
      | error warning =>
          have unbound : ¬ field.isBound settings known = true := by
            intro bound
            obtain ⟨column, same⟩ := Attribute.exists_ofField_iff.mpr bound
            rw [made] at same
            cases same
          rw [List.filter_cons_of_neg unbound, ih]

/-- The payload of a table, part by part. -/
theorem TablePayload.ofTable_inv {table : Table} {payload : TablePayload}
    {warnings : List LogEntry}
    (planned : TablePayload.ofTable settings known table = .ok (payload, warnings)) :
    ∃ key, table.displayField = .ok key ∧
      payload = ⟨table.schemaName, table.name,
        Attribute.ofKey settings key :: (attributesOf settings known table.attributeFields).1,
        settings.languageCode⟩ := by
  unfold TablePayload.ofTable at planned
  cases found : table.displayField with
  | error missing =>
      rw [found] at planned
      cases planned
  | ok key =>
      rw [found] at planned
      cases planned
      exact ⟨key, rfl, rfl⟩

/-- A payload has the name and the columns of its table. -/
theorem TablePayload.signatures_ofTable {table : Table} {payload : TablePayload}
    {warnings : List LogEntry}
    (planned : TablePayload.ofTable settings known table = .ok (payload, warnings)) :
    payload.schemaName = table.schemaName ∧ ∃ key, table.displayField = .ok key ∧
      payload.attributes.map Attribute.signature = table.columns settings known key := by
  obtain ⟨key, found, rfl⟩ := ofTable_inv planned
  refine ⟨rfl, key, found, ?_⟩
  rw [List.map_cons, attributesOf_map fun _ _ => Attribute.signature_ofField, Table.columns]

/-- The columns depend on nothing but which option sets are known. -/
theorem Table.columns_congr {known' : OrderedMap String}
    (same : ∀ name, known.contains name = known'.contains name) (key : Field) (table : Table) :
    table.columns settings known key = table.columns settings known' key := by
  have bound : Field.isBound settings known = Field.isBound settings known' := by
    funext field
    unfold Field.isBound
    cases field.enumName with
    | none => rfl
    | some enum => exact same _
  rw [columns, columns, bound]

/-- The first key of a table names its rows. -/
theorem Table.displayField_eq_ok_iff {t : Table} {key : Field} :
    t.displayField = .ok key ↔ t.fields.values.find? Field.isPrimaryKey = some key := by
  unfold displayField
  cases t.fields.values.find? Field.isPrimaryKey <;> simp

/-- Nothing names the rows of a table exactly if it has no key. -/
theorem Table.displayField_eq_error_iff {t : Table} {missing : MissingKey} :
    t.displayField = .error missing ↔
      missing = ⟨t.name⟩ ∧ ∀ f ∈ t.fields.values, f.isPrimaryKey = false := by
  unfold displayField
  rcases found : t.fields.values.find? Field.isPrimaryKey with _ | key
  · have none := List.find?_eq_none.mp found
    simp only [Bool.not_eq_true] at none
    constructor
    · rintro ⟨⟩
      exact ⟨rfl, none⟩
    · rintro ⟨rfl, -⟩
      rfl
  · have member := List.mem_of_find?_eq_some found
    have isKey := List.find?_some found
    refine iff_of_false nofun ?_
    rintro ⟨-, unkeyed⟩
    cases (unkeyed key member).symm.trans isKey

/-- The field that names the rows of a table is a key of the table. -/
theorem Table.displayField_inv {table : Table} {key : Field}
    (display : table.displayField = .ok key) :
    key ∈ table.fields.values ∧ key.isPrimaryKey = true := by
  have first := displayField_eq_ok_iff.mp display
  exact ⟨List.mem_of_find?_eq_some first, List.find?_some first⟩

theorem Table.mem_attributeFields {table : Table} {field : Field} :
    field ∈ table.attributeFields ↔
      field ∈ table.fields.values ∧ field.isPrimaryKey = false ∧ field.isDeferred = false := by
  rw [attributeFields, List.mem_filter, Bool.and_eq_true, Bool.not_eq_true', Bool.not_eq_true']

/-! ## Column by column -/

/-- The fields whose columns can be made, each with its column. -/
def boundColumns (settings : SchemaSettings) (known : OrderedMap String) (fields : List Field) :
    List (Field × Attribute) :=
  fields.filterMap fun field =>
    (Attribute.ofField settings known field).toOption.map fun column => (field, column)

/-- The warning about a field, if it is left out. -/
def Field.warning? (settings : SchemaSettings) (known : OrderedMap String) (field : Field) :
    Option LogEntry :=
  match Attribute.ofField settings known field with
  | .ok _ => none
  | .error warning => some warning

/-- The warnings about the fields of a table that are left out. -/
def Table.leftOut (settings : SchemaSettings) (known : OrderedMap String) (table : Table) :
    List LogEntry :=
  table.attributeFields.filterMap (Field.warning? settings known)

/-- The payload of a table whose rows are named by a key. -/
def Table.payload (settings : SchemaSettings) (known : OrderedMap String) (key : Field)
    (table : Table) : TablePayload :=
  ⟨table.schemaName, table.name,
    Attribute.ofKey settings key ::
      (boundColumns settings known table.attributeFields).map Prod.snd,
    settings.languageCode⟩

theorem attributesOf_eq (fields : List Field) : attributesOf settings known fields =
    ((boundColumns settings known fields).map Prod.snd,
      fields.filterMap (Field.warning? settings known)) := by
  induction fields with
  | nil => rfl
  | cons field fields ih =>
      rw [attributesOf, ih]
      cases made : Attribute.ofField settings known field with
      | ok column => simp [boundColumns, Field.warning?, made, Except.toOption]
      | error warning => simp [boundColumns, Field.warning?, made, Except.toOption]

theorem boundColumns_cons_ok {fields : List Field} {field : Field} {column : Attribute}
    (made : Attribute.ofField settings known field = .ok column) :
    boundColumns settings known (field :: fields) =
      (field, column) :: boundColumns settings known fields :=
  List.filterMap_cons_some (by rw [made]; rfl)

theorem boundColumns_cons_error {fields : List Field} {field : Field} {warning : LogEntry}
    (made : Attribute.ofField settings known field = .error warning) :
    boundColumns settings known (field :: fields) = boundColumns settings known fields :=
  List.filterMap_cons_none (by rw [made]; rfl)

theorem sublist_boundColumns (fields : List Field) :
    ((boundColumns settings known fields).map Prod.fst).Sublist fields := by
  induction fields with
  | nil => exact .slnil
  | cons field fields ih =>
      cases made : Attribute.ofField settings known field with
      | ok column =>
          rw [boundColumns_cons_ok made, List.map_cons]
          exact ih.cons_cons field
      | error warning =>
          rw [boundColumns_cons_error made]
          exact ih.cons field

/-- What is planned for a table is its payload, with the warnings about the fields left out. -/
theorem TablePayload.ofTable_eq (table : Table) : TablePayload.ofTable settings known table =
    table.displayField.map fun key =>
      (table.payload settings known key, table.leftOut settings known) := by
  unfold TablePayload.ofTable
  rw [attributesOf_eq]
  rfl

theorem mem_boundColumns {fields : List Field} {field : Field} {column : Attribute} :
    (field, column) ∈ boundColumns settings known fields ↔
      field ∈ fields ∧ Attribute.ofField settings known field = .ok column := by
  rw [boundColumns, List.mem_filterMap]
  constructor
  · rintro ⟨other, member, made⟩
    cases result : Attribute.ofField settings known other with
    | error warning => simp [result, Except.toOption] at made
    | ok found =>
        simp only [result, Except.toOption, Option.map_some, Option.some.injEq,
          Prod.mk.injEq] at made
        obtain ⟨rfl, rfl⟩ := made
        exact ⟨member, result⟩
  · rintro ⟨member, made⟩
    exact ⟨field, member, by rw [made]; rfl⟩

end

/-! ## Sources with choices -/

/-- A table with a choice. -/
def oneChoice : String :=
  "Enum S \x7b\nA\n\x7d\nTable T \x7b\nid GUID [pk]\ns S\n\x7d"

/-- A table with a choice and a user. -/
def choiceAndUser : String :=
  "Enum S \x7b\nA\n\x7d\nTable T \x7b\nid GUID [pk]\ns S\np Person\n\x7d"

theorem exists_ofText_oneChoice : ∃ m, Model.ofText {} false oneChoice = .ok m :=
  exists_of_isOk (by decide +kernel)

theorem exists_ofText_choiceAndUser : ∃ m, Model.ofText {} false choiceAndUser = .ok m :=
  exists_of_isOk (by decide +kernel)

end ErdDeploy
