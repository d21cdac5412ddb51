import ErdDeploy.Proofs.Deployment.Columns
import ErdDeploy.Proofs.Schema.Origin

/-!
What becomes of a declared field.

A field of a table becomes a column in one of three ways: the payload of the table
has an attribute that shows its name, a reference brings a lookup that does, or a
relationship with the table of users does. `Model.Spares` names the two kinds of
fields for which the model plans no column of their own: a key beside the one that
names the rows, and a field that has the name of a reference's lookup and was taken
over by it, while the column of the reference is called as the reference says.

`Model.fields_covered` says that there are no others.
-/

namespace ErdDeploy

/-! ## Covered and spared fields -/

/-- An attribute of the payload shows a name. -/
def TablePayload.Shows (payload : TablePayload) (name : String) : Prop :=
  ∃ a ∈ payload.attributes, a.displayName = name

instance (payload : TablePayload) (name : String) : Decidable (payload.Shows name) :=
  inferInstanceAs (Decidable (∃ a ∈ payload.attributes, a.displayName = name))

/-- A payload shows the name of the key of its table and those of the fields that are bound. -/
theorem TablePayload.shows_iff {settings : SchemaSettings} {known : OrderedMap String} {t : Table}
    {payload : TablePayload} {warnings : List LogEntry} {key : Field} {name : String}
    (planned : TablePayload.ofTable settings known t = .ok (payload, warnings))
    (display : t.displayField = .ok key) : payload.Shows name ↔
      key.name = name ∨
        ∃ f ∈ t.attributeFields, f.isBound settings known = true ∧ f.name = name := by
  obtain ⟨other, display', rfl⟩ := TablePayload.ofTable_inv planned
  rw [display] at display'
  cases display'
  have names : (attributesOf settings known t.attributeFields).1.map (fun a => a.displayName) =
      (t.attributeFields.filter (Field.isBound settings known)).map Field.name :=
    attributesOf_map (fun field column made => by rw [Attribute.head_ofField made]; rfl) _
  have others : (∃ a ∈ (attributesOf settings known t.attributeFields).1, a.displayName = name) ↔
      ∃ f ∈ t.attributeFields, f.isBound settings known = true ∧ f.name = name := by
    rw [← List.mem_map, names, List.mem_map]
    simp only [List.mem_filter, and_assoc]
  simp only [Shows, List.mem_cons, exists_eq_or_imp, others]
  rfl

namespace Model

/-- A relationship of the model brings a column to a table that shows a name. -/
def Relates (m : Model) (t : Table) (name : String) : Prop :=
  ∃ r ∈ m.relationships ++ m.userRelationships,
    r.referencingEntity = t.schemaName ∧ r.lookupDisplayName = name

instance (m : Model) (t : Table) (name : String) : Decidable (m.Relates t name) :=
  inferInstanceAs (Decidable (∃ r ∈ m.relationships ++ m.userRelationships,
    r.referencingEntity = t.schemaName ∧ r.lookupDisplayName = name))

/-- The model plans no column for a field: it is a key that does not name the rows of the table,
or no key, and an effective reference into the table gives its lookup the name of the field. -/
def Spares (m : Model) (t : Table) (f : Field) : Prop :=
  f.isPrimaryKey = true ∧ t.displayField ≠ .ok f ∨
    f.isPrimaryKey = false ∧ ∃ r ∈ Lookup.into m.tables t.name m.references, f.name = r.lookupName

/-- All declared fields of the tables to be created become columns. -/
def CoversFields (m : Model) (settings : SchemaSettings) (known : OrderedMap String)
    (declared : OrderedMap Table) : Prop :=
  ∀ t ∈ m.creatableTables, ∀ before ∈ declared.get? t.name,
    ∀ made ∈ (TablePayload.ofTable settings known t).toOption, ∀ f ∈ before.fields.values,
      f.isLookup = false → made.1.Shows f.name ∨ m.Relates t f.name

instance (m : Model) (settings : SchemaSettings) (known : OrderedMap String)
    (declared : OrderedMap Table) : Decidable (m.CoversFields settings known declared) :=
  inferInstanceAs (Decidable (∀ t ∈ m.creatableTables, ∀ before ∈ declared.get? t.name,
    ∀ made ∈ (TablePayload.ofTable settings known t).toOption, ∀ f ∈ before.fields.values,
      f.isLookup = false → made.1.Shows f.name ∨ m.Relates t f.name))

/-- Fields can be lost: of two keys of a table only the first one becomes a column. -/
theorem not_coversFields :
    ¬ ∀ (text : String) (strict : Bool) (settings : SchemaSettings) (m : Model)
      (declared : OrderedMap Table) (known : OrderedMap String),
      ofText settings.naming strict text = .ok m →
      declaredTables settings.naming text = .ok declared →
      (∀ enum ∈ m.enumNames, known.contains (settings.naming.optionSetName enum) = true) →
        m.CoversFields settings known declared := by
  intro covered
  have lost : ((ofText {} true "Table T \x7b\na GUID [pk]\nb GUID [pk]\n\x7d").toOption.map
      fun m => (declaredTables {} "Table T \x7b\na GUID [pk]\nb GUID [pk]\n\x7d").toOption.map
        fun declared => (m.enumNames, decide (m.CoversFields {} .empty declared))) =
      some (some ([], false)) := by
    decide +kernel
  obtain ⟨m, read, lost⟩ := exists_of_toOption_map lost
  obtain ⟨declared, made, both⟩ := exists_of_toOption_map lost
  obtain ⟨names, uncovered⟩ := Prod.mk.inj both
  exact of_decide_eq_false uncovered
    (covered _ true {} m declared .empty read made (by rw [names]; simp))

section

variable {rules : NamingRules} {declared : OrderedMap Table} {m : Model} {t : Table} {f : Field}

/-- A field that is named by an effective reference into its table is brought by the relationship
of the reference. -/
theorem relates_of_reference (origin : m.Origin rules declared)
    (stored : m.tables.get? t.name = some t) {r : Reference}
    (member : r ∈ Lookup.into m.tables t.name m.references) (bears : f.name = r.toField) :
    m.Relates t f.name := by
  obtain ⟨among, effective, target⟩ := Lookup.mem_into.mp member
  refine ⟨Relationship.ofReference rules m.tables r, List.mem_append_left _ ?_, ?_, bears.symm⟩
  · rw [origin.relationships]
    exact List.mem_map.mpr ⟨r, List.mem_filter.mpr ⟨among, effective⟩, rfl⟩
  · rw [origin.schemaName stored, ← target]
    rfl

/-- A field that refers to a user is brought by a relationship with the table of users. -/
theorem relates_of_userReference (origin : m.Origin rules declared)
    (stored : m.tables.get? t.name = some t) (member : f ∈ t.fields.values)
    (user : f.isUserReference = true) : m.Relates t f.name := by
  refine ⟨Relationship.ofUserReference rules t f, List.mem_append_right _ ?_, rfl, rfl⟩
  rw [origin.userRelationships, Relationship.resolveUsers, List.mem_flatMap]
  refine ⟨t, OrderedMap.mem_values_iff.mpr ⟨t.name, stored⟩, ?_⟩
  exact List.mem_map.mpr ⟨f, List.mem_filter.mpr ⟨member, user⟩, rfl⟩

/-- What a declared field has become in the table of the model. -/
theorem get?_of_declared (origin : m.Origin rules declared)
    (stored : m.tables.get? t.name = some t) {before : Table}
    (declaredAt : declared.get? t.name = some before) (member : f ∈ before.fields.values) :
    t.fields.get? f.name =
      some (Lookup.throughAll (Lookup.into m.tables t.name m.references) f) := by
  obtain ⟨other, declaredAt', same⟩ := origin.of_get? stored
  rw [declaredAt] at declaredAt'
  cases declaredAt'
  have own := (origin.table t.name before declaredAt).2.ownNames
  have found := Lookup.get?_putAll_of_get? own (Lookup.into m.tables t.name m.references)
    (own.get?_of_mem_values member)
  rw [← found]
  exact congrArg (fun table => table.fields.get? f.name) same

variable {settings : SchemaSettings} {known : OrderedMap String} {before : Table}
  {payload : TablePayload} {warnings : List LogEntry} {key : Field}

/-- If the option sets of all enums are known, every field is bound. -/
theorem isBound_of_available (origin : m.Origin settings.naming declared)
    (stored : m.tables.get? t.name = some t)
    (available : ∀ enum ∈ m.enumNames,
      known.contains (settings.naming.optionSetName enum) = true) :
    ∀ f ∈ t.fields.values, f.isBound settings known = true := by
  intro f member
  unfold Field.isBound
  cases choice : f.enumName with
  | none => rfl
  | some enum => exact available enum (origin.enums stored member choice)

/-- A declared field that is neither a key nor claimed by a reference has a column of its own. -/
theorem covered_of_unclaimed (origin : m.Origin settings.naming declared)
    (stored : m.tables.get? t.name = some t)
    (available : ∀ enum ∈ m.enumNames,
      known.contains (settings.naming.optionSetName enum) = true)
    (planned : TablePayload.ofTable settings known t = .ok (payload, warnings))
    (display : t.displayField = .ok key) (declaredAt : declared.get? t.name = some before)
    (member : f ∈ before.fields.values) (plain : f.isLookup = false)
    (free : f.isPrimaryKey = false)
    (unclaimed : ∀ r ∈ Lookup.into m.tables t.name m.references, ¬ Lookup.Claims r f.name) :
    payload.Shows f.name ∨ m.Relates t f.name := by
  have found := get?_of_declared origin stored declaredAt member
  rw [Lookup.throughAll_eq_self _ (Or.inr unclaimed)] at found
  have still : f ∈ t.fields.values := OrderedMap.mem_values_iff.mpr ⟨f.name, found⟩
  cases user : f.isUserReference with
  | true => exact Or.inr (relates_of_userReference origin stored still user)
  | false =>
      refine Or.inl ((TablePayload.shows_iff planned display).mpr (Or.inr ⟨f, ?_, ?_, rfl⟩))
      · refine Table.mem_attributeFields.mpr ⟨still, free, ?_⟩
        rw [Field.isDeferred, plain, user, Bool.false_or]
      · exact isBound_of_available origin stored available f still

/-- A spared field has no attribute: whatever is stored under its name is a key that does not name
the rows, or a lookup. -/
theorem not_shows_of_spares (origin : m.Origin settings.naming declared)
    (stored : m.tables.get? t.name = some t)
    (planned : TablePayload.ofTable settings known t = .ok (payload, warnings))
    (display : t.displayField = .ok key) (declaredAt : declared.get? t.name = some before)
    (member : f ∈ before.fields.values) (spares : m.Spares t f) : ¬ payload.Shows f.name := by
  have found := get?_of_declared origin stored declaredAt member
  have own := origin.ownNames stored
  -- Only one field is stored under the name.
  have same : ∀ g ∈ t.fields.values, g.name = f.name →
      g = Lookup.throughAll (Lookup.into m.tables t.name m.references) f := by
    intro g among named
    have foundHere := own.get?_of_mem_values among
    rw [named, found] at foundHere
    exact (Option.some.inj foundHere).symm
  intro shown
  rcases (TablePayload.shows_iff planned display).mp shown with named | ⟨g, among, -, named⟩
  · obtain ⟨keyMember, isKey⟩ := Table.displayField_inv display
    have keyIs := same key keyMember named
    rcases spares with ⟨fKey, other⟩ | ⟨free, -⟩
    · rw [Lookup.throughAll_eq_self _ (Or.inl fKey)] at keyIs
      rw [keyIs] at display
      exact other display
    · rw [keyIs, Lookup.throughAll_isPrimaryKey, free] at isKey
      cases isKey
  · obtain ⟨there, noKey, notDeferred⟩ := Table.mem_attributeFields.mp among
    have gIs := same g there named
    rcases spares with ⟨fKey, -⟩ | ⟨free, r, into, lookup⟩
    · rw [gIs, Lookup.throughAll_isPrimaryKey, fKey] at noKey
      cases noKey
    · have taken := Lookup.isLookup_throughAll_of_claims _ free ⟨r, into, Or.inl lookup⟩
      rw [← gIs] at taken
      rw [Field.isDeferred, taken, Bool.true_or] at notDeferred
      cases notDeferred

end

/-- **Declared fields.** If the option sets of all enums are known, every declared field of a table
that can be created is shown by an attribute of its payload, or brought by a relationship, or
spared; and what is spared has no attribute. -/
theorem fields_covered {settings : SchemaSettings} {strict : Bool} {text : String} {m : Model}
    {known : OrderedMap String} (read : ofText settings.naming strict text = .ok m)
    (available : ∀ enum ∈ m.enumNames,
      known.contains (settings.naming.optionSetName enum) = true) :
    ∃ declared, declaredTables settings.naming text = .ok declared ∧
      ∀ t ∈ m.creatableTables, (∃ key, t.displayField = .ok key) →
        ∃ before payload warnings, declared.get? t.name = some before ∧
          TablePayload.ofTable settings known t = .ok (payload, warnings) ∧
          ∀ f ∈ before.fields.values, f.isLookup = false →
            (payload.Shows f.name ∨ m.Relates t f.name ∨ m.Spares t f) ∧
              (m.Spares t f → ¬ payload.Shows f.name) := by
  obtain ⟨declared, made, origin⟩ := origin_of_ofText read
  refine ⟨declared, made, ?_⟩
  rintro t creatable ⟨key, display⟩
  have stored := origin.get?_of_mem_values (List.mem_filter.mp creatable).1
  obtain ⟨before, declaredAt, -⟩ := origin.of_get? stored
  have planned : ∃ payload warnings,
      TablePayload.ofTable settings known t = .ok (payload, warnings) := by
    rw [TablePayload.ofTable, display]
    exact ⟨_, _, rfl⟩
  obtain ⟨payload, warnings, planned⟩ := planned
  refine ⟨before, payload, warnings, declaredAt, planned, ?_⟩
  intro f member plain
  refine ⟨?_, not_shows_of_spares origin stored planned display declaredAt member⟩
  cases isKey : f.isPrimaryKey with
  | true =>
      by_cases names : t.displayField = .ok f
      · rw [display] at names
        cases names
        exact Or.inl ((TablePayload.shows_iff planned display).mpr (Or.inl rfl))
      · exact Or.inr (Or.inr (Or.inl ⟨isKey, names⟩))
  | false =>
      by_cases claimed : ∃ r ∈ Lookup.into m.tables t.name m.references, Lookup.Claims r f.name
      · obtain ⟨r, into, lookup | column⟩ := claimed
        · exact Or.inr (Or.inr (Or.inr ⟨isKey, r, into, lookup⟩))
        · exact Or.inr (Or.inl (relates_of_reference origin stored into column))
      · have unclaimed : ∀ r ∈ Lookup.into m.tables t.name m.references,
            ¬ Lookup.Claims r f.name := fun r into claims => claimed ⟨r, into, claims⟩
        rcases covered_of_unclaimed origin stored available planned display declaredAt member plain
          isKey unclaimed with shown | related
        · exact Or.inl shown
        · exact Or.inr (Or.inl related)

/-- The declared fields of a table with a choice. -/
theorem fields_covered_of_choice :
    ∃ m, ofText {} true oneChoice = .ok m ∧
      (∀ enum ∈ m.enumNames, (OrderedMap.ofList [("new_s", "id-1")]).contains
        (NamingRules.optionSetName {} enum) = true) ∧
      ∃ declared, declaredTables {} oneChoice = .ok declared ∧
        ∀ t ∈ m.creatableTables, (∃ key, t.displayField = .ok key) →
          ∃ before payload warnings, declared.get? t.name = some before ∧
            TablePayload.ofTable {} (.ofList [("new_s", "id-1")]) t = .ok (payload, warnings) ∧
            ∀ f ∈ before.fields.values, f.isLookup = false →
              (payload.Shows f.name ∨ m.Relates t f.name ∨ m.Spares t f) ∧
                (m.Spares t f → ¬ payload.Shows f.name) := by
  have enums : (ofText {} true oneChoice).toOption.map enumNames = some ["S"] := by
    decide +kernel
  have known : (OrderedMap.ofList [("new_s", "id-1")]).contains
      (NamingRules.optionSetName {} "S") = true := by
    decide +kernel
  obtain ⟨m, read, names⟩ := exists_of_toOption_map enums
  have available : ∀ enum ∈ m.enumNames, (OrderedMap.ofList [("new_s", "id-1")]).contains
      (NamingRules.optionSetName {} enum) = true := by
    intro enum member
    rw [names, List.mem_singleton] at member
    rw [member, known]
  exact ⟨m, read, available, @fields_covered {} _ _ _ _ read available⟩

end Model

end ErdDeploy
