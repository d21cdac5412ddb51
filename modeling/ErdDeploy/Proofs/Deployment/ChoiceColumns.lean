import ErdDeploy.Proofs.Deployment.Orders
import ErdDeploy.Proofs.Deployment.SharedNames
import ErdDeploy.Proofs.Schema.Origin

/-!
Columns that choose among the values of an enum.

An enum field is bound to its option set through the registry: the stage of option
sets writes identifiers into it, and the stage of tables reads them.
`TablePayload.Binds` says how the fields of a table appear in a payload, if some
option sets are known, and `Table.payload_binds` that they do so in every payload
that is planned.

`Model.choices_bound` follows the payloads into a run: in every creation of a table
each enum field has exactly one column, of the option set that the run knows and the
remote stores, or is left out with one warning if the run does not know it, while the
other fields have their columns in any case.
-/

namespace ErdDeploy

open MemoryRemote

/-! ## Columns of tables -/

section

variable {settings : SchemaSettings} {known : OrderedMap String} {m : Model} {t : Table}
  {field : Field} {enum id : String}

theorem Attribute.ofField_of_known (choice : field.enumName = some enum)
    (stored : known.get? (settings.naming.optionSetName enum) = some id) :
    ofField settings known field = .ok ⟨.ofField settings field, .picklist id⟩ := by
  simp only [ofField, choice, stored]

theorem Attribute.ofField_of_unknown (choice : field.enumName = some enum)
    (absent : known.get? (settings.naming.optionSetName enum) = none) :
    ofField settings known field =
      .error (optionSetUnavailable (settings.naming.optionSetName enum) field.name) := by
  simp only [ofField, choice, absent]

theorem Attribute.ofField_of_plain (plain : field.enumName = none) :
    ofField settings known field =
      .ok ⟨.ofField settings field, .ofColumnType field.columnType field.maxLength⟩ := by
  simp only [ofField, plain]

/-- A warning is about a choice whose option set is not known. -/
theorem Field.warning?_eq_some_iff {warning : LogEntry} :
    field.warning? settings known = some warning ↔
      ∃ enum, field.enumName = some enum ∧
        known.get? (settings.naming.optionSetName enum) = none ∧
        warning = optionSetUnavailable (settings.naming.optionSetName enum) field.name := by
  unfold warning?
  cases choice : field.enumName with
  | none => simp [Attribute.ofField_of_plain choice]
  | some enum =>
      cases stored : known.get? (settings.naming.optionSetName enum) with
      | none => simp [Attribute.ofField_of_unknown choice stored, stored, eq_comm]
      | some id => simp [Attribute.ofField_of_known choice stored, stored]

/-- The attributes of a payload that show a name. -/
def TablePayload.shownAs (payload : TablePayload) (name : String) : List Attribute :=
  payload.attributes.filter fun a => a.displayName = name

/-- The columns of a payload are those of the fields of its table: a choice has one, of its option
set, if this is known, and is left out with a warning if it is not; any other field that is no key
and has no relationship to create it has one in any case. -/
structure TablePayload.Binds (settings : SchemaSettings) (known : OrderedMap String) (t : Table)
    (payload : TablePayload) : Prop where
  named : payload.schemaName = t.schemaName ∧ payload.displayName = t.name
  bound : ∀ f ∈ t.fields.values, ∀ enum id, f.enumName = some enum →
    known.get? (settings.naming.optionSetName enum) = some id →
      payload.shownAs f.name = [⟨.ofField settings f, .picklist id⟩] ∧
        f.warning? settings known = none
  leftOut : ∀ f ∈ t.fields.values, ∀ enum, f.enumName = some enum →
    known.get? (settings.naming.optionSetName enum) = none →
      payload.shownAs f.name = [] ∧ f.warning? settings known =
        some (optionSetUnavailable (settings.naming.optionSetName enum) f.name)
  others : ∀ f ∈ t.fields.values, f.enumName = none → f.isPrimaryKey = false →
    f.isDeferred = false →
      payload.shownAs f.name =
        [⟨.ofField settings f, .ofColumnType f.columnType f.maxLength⟩]

theorem map_name_values {fields : OrderedMap Field} (own : Lookup.OwnNames fields) :
    fields.values.map Field.name = fields.names := by
  rw [OrderedMap.values, List.map_map, OrderedMap.names]
  exact List.map_congr_left fun entry member =>
    own entry.1 entry.2 (OrderedMap.get?_eq_some_iff.mpr member)

theorem filter_boundColumns_eq_nil {fields : List Field} {name : String}
    (absent : name ∉ fields.map Field.name) :
    ((boundColumns settings known fields).map Prod.snd).filter
      (fun a => a.displayName = name) = [] := by
  rw [List.filter_eq_nil_iff]
  intro column member shows
  obtain ⟨⟨field, _⟩, bound, rfl⟩ := List.mem_map.mp member
  obtain ⟨among, made⟩ := mem_boundColumns.mp bound
  have head := Attribute.head_ofField made
  simp only [decide_eq_true_eq, head] at shows
  exact absent (List.mem_map.mpr ⟨field, among, shows⟩)

/-- Among fields of distinct names each is shown by its own column only. -/
theorem filter_boundColumns {fields : List Field} (distinct : (fields.map Field.name).Nodup)
    (member : field ∈ fields) :
    ((boundColumns settings known fields).map Prod.snd).filter
        (fun a => a.displayName = field.name) =
      (Attribute.ofField settings known field).toOption.toList := by
  obtain ⟨before, later, rfl⟩ := List.append_of_mem member
  have apart : field.name ∉ before.map Field.name ∧ field.name ∉ later.map Field.name := by
    rw [List.map_append, List.map_cons, List.perm_middle.nodup_iff, List.nodup_cons,
      List.mem_append, not_or] at distinct
    exact distinct.1
  have split : boundColumns settings known (before ++ field :: later) =
      boundColumns settings known before ++
        (boundColumns settings known [field] ++ boundColumns settings known later) := by
    rw [← List.singleton_append, boundColumns, List.filterMap_append, List.filterMap_append]
    rfl
  rw [split, List.map_append, List.map_append, List.filter_append, List.filter_append,
    filter_boundColumns_eq_nil apart.1, filter_boundColumns_eq_nil apart.2, List.nil_append,
    List.append_nil]
  cases made : Attribute.ofField settings known field with
  | error warning => simp [boundColumns, made, Except.toOption]
  | ok column =>
      have head := Attribute.head_ofField made
      simp [boundColumns, made, Except.toOption, head, AttributeHead.ofField]

/-- A field that is created together with its table is shown by its own column only. -/
theorem Table.shownAs_payload {key : Field} (own : Lookup.OwnNames t.fields)
    (display : t.displayField = .ok key) (member : field ∈ t.attributeFields) :
    (t.payload settings known key).shownAs field.name =
      (Attribute.ofField settings known field).toOption.toList := by
  obtain ⟨stored, noKey, -⟩ := Table.mem_attributeFields.mp member
  obtain ⟨keyStored, isKey⟩ := Table.displayField_inv display
  -- The column of the key shows another name, since no other field is stored under this one.
  have differ : ¬ key.name = field.name := by
    intro same
    have found := own.get?_of_mem_values keyStored
    rw [same, own.get?_of_mem_values stored] at found
    cases found
    rw [noKey] at isKey
    cases isKey
  have distinct : (t.attributeFields.map Field.name).Nodup := by
    refine List.Nodup.sublist (List.filter_sublist.map Field.name) ?_
    rw [map_name_values own]
    exact t.fields.distinct
  have hidden : ¬ decide ((Attribute.ofKey settings key).displayName = field.name) = true := by
    rw [decide_eq_true_eq]
    exact differ
  rw [TablePayload.shownAs, payload, List.filter_cons, if_neg hidden,
    filter_boundColumns distinct member]

theorem Table.payload_binds {key : Field} (own : Lookup.OwnNames t.fields)
    (display : t.displayField = .ok key) : (t.payload settings known key).Binds settings known t :=
  have choice_stands : ∀ f ∈ t.fields.values, ∀ enum, f.enumName = some enum →
      f ∈ t.attributeFields := by
    intro f member enum choice
    refine Table.mem_attributeFields.mpr ⟨member, ?_⟩
    unfold Field.enumName at choice
    cases kind : f.kind <;>
      simp_all [Field.isPrimaryKey, Field.isDeferred, Field.isLookup, Field.isUserReference]
  { named := ⟨rfl, rfl⟩
    bound := by
      intro f member enum id choice stored
      rw [shownAs_payload own display (choice_stands f member enum choice), Field.warning?,
        Attribute.ofField_of_known choice stored]
      exact ⟨rfl, rfl⟩
    leftOut := by
      intro f member enum choice absent
      rw [shownAs_payload own display (choice_stands f member enum choice), Field.warning?,
        Attribute.ofField_of_unknown choice absent]
      exact ⟨rfl, rfl⟩
    others := by
      intro f member plain noKey stands
      rw [shownAs_payload own display (Table.mem_attributeFields.mpr ⟨member, noKey, stands⟩),
        Attribute.ofField_of_plain plain]
      rfl }

/-! ## Plans for tables -/

/-- A table is to be created by the plan, with the option sets that are known. -/
def Model.PlansTable (m : Model) (settings : SchemaSettings) (known : OrderedMap String)
    (plan : Payload × List LogEntry) : Prop :=
  ∃ t ∈ m.creatableTables, ∃ key, t.displayField = .ok key ∧
    plan = (.table (t.payload settings known key), t.leftOut settings known)

/-- A plan for a table to be created, or one for another kind of objects, which leaves nothing
out. -/
theorem Stage.Plans.cases {stage : Stage} {plan : Payload × List LogEntry}
    (plans : stage.Plans settings known m plan) :
    (stage ≠ .optionSets ∧ m.PlansTable settings known plan) ∨
      plan.1.kind ≠ .table ∧ plan.2 = [] := by
  obtain ⟨target, among, planned⟩ := plans
  have ofRelationships : ∀ {rs : List Relationship} {before : List String},
      Task.converge target ∈ relationshipTasks settings before rs →
        plan.1.kind ≠ .table ∧ plan.2 = [] := by
    intro rs before among
    obtain ⟨r, -, same | same⟩ := exists_of_mem_relationshipTasks among
    · cases same
    · cases same
      cases planned
      exact ⟨by simp [Payload.kind], rfl⟩
  cases stage with
  | optionSets =>
      rw [tasks, optionSetTasks_eq, List.mem_map] at among
      obtain ⟨entry, -, same⟩ := among
      cases same
      cases planned
      exact Or.inr ⟨by simp [Payload.kind], rfl⟩
  | tables =>
      rw [tasks, tableTasks_eq, List.mem_map] at among
      obtain ⟨t, member, same⟩ := among
      unfold Task.ofTable at same
      split at same
      · cases same
      · next free =>
        cases same
        rw [Target.ofTable, TablePayload.ofTable_eq] at planned
        cases display : t.displayField with
        | error missing =>
            rw [display] at planned
            cases planned
        | ok key =>
            rw [display] at planned
            cases planned
            have creatable : t ∈ m.creatableTables :=
              List.mem_filter.mpr ⟨member, by simpa using free⟩
            exact Or.inl ⟨by decide, t, creatable, key, display, rfl⟩
  | tableRelationships => exact Or.inr (ofRelationships among)
  | userRelationships => exact Or.inr (ofRelationships among)

/-- The tables among some plans, with what is left out of them. -/
theorem exists_tables_of_plans {plans : List (Payload × List LogEntry)}
    (cases : ∀ plan ∈ plans,
      m.PlansTable settings known plan ∨ plan.1.kind ≠ .table ∧ plan.2 = []) :
    ∃ made : List (Table × TablePayload),
      tablePayloads (plans.map Prod.fst) = made.map Prod.snd ∧
      (plans.flatMap fun plan => warningsOf plan.2) =
        made.flatMap (fun entry => entry.1.leftOut settings known) ∧
      ∀ entry ∈ made, entry.1 ∈ m.creatableTables ∧
        ∃ key, entry.1.displayField = .ok key ∧ entry.2 = entry.1.payload settings known key := by
  -- All that is said of fields left out are warnings.
  have warns : ∀ t : Table, warningsOf (t.leftOut settings known) = t.leftOut settings known := by
    intro t
    refine List.filter_eq_self.mpr fun entry member => ?_
    obtain ⟨field, -, warned⟩ := List.mem_filterMap.mp member
    obtain ⟨enum, -, -, rfl⟩ := Field.warning?_eq_some_iff.mp warned
    rfl
  induction plans with
  | nil => exact ⟨[], rfl, rfl, by simp⟩
  | cons plan plans ih =>
      obtain ⟨made, tables, warnings, fits⟩ :=
        ih fun plan member => cases plan (List.mem_cons_of_mem _ member)
      rcases cases plan List.mem_cons_self with ⟨t, creatable, key, display, rfl⟩ | ⟨other, quiet⟩
      · refine ⟨(t, t.payload settings known key) :: made, ?_, ?_, ?_⟩
        · rw [List.map_cons, List.map_cons, ← tables]
          rfl
        · rw [List.flatMap_cons, List.flatMap_cons, warnings, warns]
        · exact List.forall_mem_cons.mpr ⟨⟨creatable, key, display, rfl⟩, fits⟩
      · refine ⟨made, ?_, ?_, fits⟩
        · rw [← tables, List.map_cons]
          obtain ⟨payload, log⟩ := plan
          cases payload with
          | table payload => exact absurd rfl other
          | optionSet payload => rfl
          | relationship payload => rfl
        · rw [List.flatMap_cons, quiet, warnings]
          rfl

/-! ## Runs -/

theorem MemoryRemote.quiet_client : client.Quiet where
  find kind name remote := by
    simp only [client, MemoryRemote.find]
    split <;> rfl
  create payload remote := by
    simp only [client, MemoryRemote.create]
    split
    · rfl
    · split <;> rfl

/-- **Choices.** In a run that is not dry, of a model that is read from a text, on a remote that
holds texts, every creation of a table is asked for with columns bound to the option sets that the
run knows, and the warnings of the run are those about the fields that are left out of these tables.
An option set that the run knows is stored in the remote under the same identifier. -/
theorem Model.choices_bound {strict : Bool} {text : String}
    (read : Model.ofText settings.naming strict text = .ok m) {remote : MemoryRemote}
    (texts : remote.HoldsTexts) :
    ∃ summary, (m.deploy (some client) settings false remote).result = .ok summary ∧
      (∃ made : List (Table × TablePayload),
        tablePayloads (orders (m.exchanges client settings false remote)) = made.map Prod.snd ∧
        warningsOf (m.deploy (some client) settings false remote).log =
          made.flatMap (fun entry => entry.1.leftOut settings summary.registry.optionSets) ∧
        ∀ entry ∈ made, entry.1 ∈ m.creatableTables ∧
          entry.2.Binds settings summary.registry.optionSets entry.1) ∧
      ∀ name id, summary.registry.optionSets.get? name = some id →
        ((m.deploy (some client) settings false remote).state.store .optionSet).get? name =
          some (.text id) := by
  obtain ⟨summary, result, visit⟩ := m.visit settings false texts
  refine ⟨summary, result, ?_, ?_⟩
  · obtain ⟨declared, -, origin⟩ := origin_of_ofText read
    have recorded := m.deploy_recording client settings false remote
    have first : Stage.all.Pairwise fun _ later => later ≠ .optionSets := by decide
    obtain ⟨plans, planned, asked⟩ := @runStages_orders _ client settings m quiet_client _ first
      (.start m.diagnostics false) (remote, [])
    have whole : runStages (.full client.recording) settings m Stage.all
        (.start m.diagnostics false) (remote, []) =
          m.deploy (some client.recording) settings false (remote, []) := rfl
    rw [whole, recorded] at asked
    rw [whole, recorded] at planned
    have cases : ∀ plan ∈ plans,
        m.PlansTable settings summary.registry.optionSets plan ∨
          plan.1.kind ≠ .table ∧ plan.2 = [] := by
      intro plan member
      obtain ⟨stage, -, ids, plans, known⟩ := planned plan member
      rcases plans.cases with ⟨late, table⟩ | other
      · cases known late summary result
        exact Or.inl table
      · exact Or.inr other
    obtain ⟨made, tables, warnings, fits⟩ := exists_tables_of_plans cases
    have payloads : orders (m.exchanges client settings false remote) = plans.map Prod.fst :=
      asked.payloads
    refine ⟨made, by rw [payloads, tables], asked.warnings.trans warnings, ?_⟩
    intro entry member
    obtain ⟨creatable, key, display, same⟩ := fits entry member
    have stored := origin.get?_of_mem_values (List.mem_filter.mp creatable).1
    rw [same]
    exact ⟨creatable, Table.payload_binds (origin.ownNames stored) display⟩
  · exact fun name id known => visit.stored_of_known known

end

/-- A table with two choices. -/
def twoChoices : String :=
  "Enum S \x7b\nA\n\x7d\nEnum R \x7b\nB\n\x7d\n" ++
    "Table T \x7b\nid GUID [pk]\ns S\nr R\nx Int\n\x7d"

/-- A remote that refuses one of their option sets. -/
def refusingOne : MemoryRemote :=
  empty.withFailures [(.create "new_r", ⟨"boom", none, .null⟩)]

theorem Model.choices_bound_one_refused :
    refusingOne.HoldsTexts ∧
      ∃ m, Model.ofText {} false twoChoices = .ok m ∧
        ∃ summary, (m.deploy (some client) {} false refusingOne).result = .ok summary ∧
          ∃ made : List (Table × TablePayload),
            tablePayloads (orders (m.exchanges client {} false refusingOne)) =
                made.map Prod.snd ∧
            ∀ entry ∈ made, entry.1 ∈ m.creatableTables ∧
              entry.2.Binds {} summary.registry.optionSets entry.1 := by
  have texts : refusingOne.HoldsTexts := holdsTexts_empty.withFailures _
  have readable : (Model.ofText {} false twoChoices).isOk = true := by decide +kernel
  obtain ⟨m, read⟩ := exists_of_isOk readable
  obtain ⟨summary, result, ⟨made, payloads, -, binds⟩, -⟩ :=
    @Model.choices_bound {} m false _ read _ texts
  exact ⟨texts, m, read, summary, result, made, payloads, binds⟩

end ErdDeploy
