import ErdDeploy.Deployment.Report
import ErdDeploy.Proofs.Data.OrderedMap

/-!
What a summary says.

A summary is folded from the items of four stages (`Summary.ofItems`): the reports
hold the items themselves, those of both kinds of relationships in one report, and
the registry holds the identifiers that they know. Where several items of a report
have one name, the last one with an identifier has the word in the registry
(`Summary.get?_store_ofItems`).

The counts of a report add up (`Report.declared_eq`), and a summary is a success
exactly if nothing failed (`Summary.isSuccess_iff`).
-/

namespace ErdDeploy

/-! ## Counts -/

namespace Report

/-- Every item has one of the four outcomes. -/
theorem length_items (report : Report) : report.items.length =
    report.created + report.existing + report.failed + report.count .skipped := by
  obtain ⟨kind, items⟩ := report
  simp only [created, existing, failed, count]
  induction items with
  | nil => rfl
  | cons item items ih =>
      simp only [List.length_cons, List.countP_cons, ih]
      cases item.outcome <;> simp <;> omega

theorem declared_eq (report : Report) :
    report.declared = report.created + report.existing + report.failed := by
  rw [declared, length_items]
  omega

theorem failed_eq_zero_iff {report : Report} :
    report.failed = 0 ↔ ∀ item ∈ report.items, item.outcome ≠ .failed := by
  rw [failed, count, List.countP_eq_zero]
  simp only [beq_iff_eq, ne_eq]

end Report

theorem Summary.isSuccess_iff {summary : Summary} : summary.isSuccess = true ↔
    ∀ report ∈ summary.reports, ∀ item ∈ report.items, item.outcome ≠ .failed := by
  simp only [isSuccess, List.all_eq_true, beq_iff_eq, Report.failed_eq_zero_iff]

/-! ## Identifiers -/

/-- The last of some items that has a name and an identifier has this one. -/
def LastIdentified (items : List Item) (name id : String) : Prop :=
  ∃ before item after, items = before ++ item :: after ∧ item.name = name ∧
    item.identifier = some id ∧ ∀ later ∈ after, later.name = name → later.identifier = none

theorem lastIdentified_cons {item : Item} {items : List Item} {name id : String} :
    LastIdentified (item :: items) name id ↔ LastIdentified items name id ∨
      (∀ later ∈ items, later.name = name → later.identifier = none) ∧
        item.name = name ∧ item.identifier = some id := by
  constructor
  · rintro ⟨before, last, after, split, named, known, silent⟩
    cases before with
    | nil =>
        cases split
        exact Or.inr ⟨silent, named, known⟩
    | cons first before =>
        cases split
        exact Or.inl ⟨before, last, after, rfl, named, known, silent⟩
  · rintro (⟨before, last, after, rfl, named, known, silent⟩ | ⟨silent, named, known⟩)
    · exact ⟨item :: before, last, after, rfl, named, known, silent⟩
    · exact ⟨[], item, items, rfl, named, known, silent⟩

namespace Registry

/-- The store of a kind of objects. -/
def store (registry : Registry) : ObjectKind → OrderedMap String
  | .optionSet => registry.optionSets
  | .table => registry.tables
  | .relationship => registry.relationships

theorem contains_identifiersOf {items : List Item} {name : String} :
    (identifiersOf items).contains name = true ↔
      ∃ item ∈ items, item.name = name ∧ ∃ id, item.identifier = some id := by
  rw [OrderedMap.contains_iff_mem_names, identifiersOf, OrderedMap.mem_names_ofList]
  simp only [List.mem_map, List.mem_filterMap, Option.map_eq_some_iff]
  constructor
  · rintro ⟨entry, ⟨item, member, id, known, rfl⟩, rfl⟩
    exact ⟨item, member, rfl, id, known⟩
  · rintro ⟨item, member, rfl, id, known⟩
    exact ⟨_, ⟨item, member, id, known, rfl⟩, rfl⟩

theorem get?_identifiersOf_eq_none_iff {items : List Item} {name : String} :
    (identifiersOf items).get? name = none ↔
      ∀ item ∈ items, item.name = name → item.identifier = none := by
  rw [← Option.not_isSome_iff_eq_none, ← OrderedMap.contains, contains_identifiersOf]
  constructor
  · intro unknown item member named
    cases known : item.identifier with
    | none => rfl
    | some id => exact absurd ⟨item, member, named, id, known⟩ unknown
  · rintro silent ⟨item, member, named, id, known⟩
    rw [silent item member named] at known
    cases known

theorem get?_identifiersOf_append (items later : List Item) (name : String) :
    (identifiersOf (items ++ later)).get? name =
      ((identifiersOf later).get? name).or ((identifiersOf items).get? name) := by
  rw [identifiersOf, List.filterMap_append, OrderedMap.get?_ofList_append, identifiersOf,
    identifiersOf]

theorem get?_identifiersOf_singleton {item : Item} {name id : String} :
    (identifiersOf [item]).get? name = some id ↔
      item.name = name ∧ item.identifier = some id := by
  rw [identifiersOf]
  cases known : item.identifier with
  | none => simp [known, OrderedMap.ofList, OrderedMap.insertAll, OrderedMap.empty,
      OrderedMap.get?]
  | some other =>
      have one : OrderedMap.ofList
          ([item].filterMap fun item => item.identifier.map fun id => (item.name, id)) =
          OrderedMap.empty.insert item.name other := by
        simp [known, OrderedMap.ofList, OrderedMap.insertAll]
      rw [one, OrderedMap.get?_insert]
      split
      · next here => simp [here]
      · next there => simp [OrderedMap.empty, OrderedMap.get?, Ne.symm there]

/-- The last item of a name that has an identifier has the word. -/
theorem get?_identifiersOf_iff {items : List Item} {name id : String} :
    (identifiersOf items).get? name = some id ↔ LastIdentified items name id := by
  induction items with
  | nil =>
      constructor
      · intro known
        cases known
      · rintro ⟨before, item, after, split, -⟩
        cases before <;> cases split
  | cons item items ih =>
      rw [← List.singleton_append, get?_identifiersOf_append, Option.or_eq_some_iff, ih,
        get?_identifiersOf_eq_none_iff, get?_identifiersOf_singleton, List.singleton_append,
        lastIdentified_cons]

end Registry

/-! ## Summaries of four stages -/

namespace Summary

/-- The summary of a run with the given items in its four stages. -/
def ofItems (diagnostics : List Diagnostic) (dryRun : Bool)
    (optionSets tables relationships userRelationships : List Item) : Summary :=
  ((((Summary.start diagnostics dryRun).withStage (.ofItems .optionSet optionSets)).withStage
    (.ofItems .table tables)).withStage (.ofItems .relationship relationships)).withStage
      (.ofItems .relationship userRelationships)

variable (diagnostics : List Diagnostic) (dryRun : Bool)
  (optionSets tables relationships userRelationships : List Item)

/-- The reports of a run with the given items in its four stages. -/
theorem reports_ofItems :
    (ofItems diagnostics dryRun optionSets tables relationships userRelationships).reports =
      [⟨.optionSet, optionSets⟩, ⟨.table, tables⟩,
        ⟨.relationship, relationships ++ userRelationships⟩] :=
  rfl

theorem items_relationships_ofItems :
    (ofItems diagnostics dryRun optionSets tables relationships
      userRelationships).relationships.items = relationships ++ userRelationships :=
  rfl

/-- What holds of all items of a run, kind by kind, is what holds of those of its stages. -/
theorem forall_items_ofItems (P : ObjectKind → Item → Prop) :
    (∀ report ∈ (ofItems diagnostics dryRun optionSets tables relationships
        userRelationships).reports, ∀ item ∈ report.items, P report.kind item) ↔
      (∀ item ∈ optionSets, P .optionSet item) ∧ (∀ item ∈ tables, P .table item) ∧
        (∀ item ∈ relationships, P .relationship item) ∧
        ∀ item ∈ userRelationships, P .relationship item := by
  rw [reports_ofItems]
  simp only [List.forall_mem_cons, List.forall_mem_append, List.not_mem_nil, false_imp_iff,
    implies_true, and_true]

/-- The registry of a run is put together from those of its stages. -/
theorem registry_ofItems :
    (ofItems diagnostics dryRun optionSets tables relationships userRelationships).registry =
      (((Registry.empty.append (.ofItems .optionSet optionSets)).append
        (.ofItems .table tables)).append (.ofItems .relationship relationships)).append
          (.ofItems .relationship userRelationships) :=
  rfl

theorem registry_optionSets_start (items : List Item) :
    ((Summary.start diagnostics dryRun).withStage (.ofItems .optionSet items)).registry.optionSets =
      Registry.identifiersOf items :=
  OrderedMap.ofList_entries _

/-- The run knows the option sets of its first stage to the end. -/
theorem registry_optionSets_ofItems :
    (ofItems diagnostics dryRun optionSets tables relationships
      userRelationships).registry.optionSets = Registry.identifiersOf optionSets :=
  OrderedMap.ofList_entries _

/-- In each of the three stores the items of the report have the word, the last of a name before
the others. -/
theorem get?_store_ofItems {report : Report} {name id : String}
    (member : report ∈ (ofItems diagnostics dryRun optionSets tables relationships
      userRelationships).reports) :
    ((ofItems diagnostics dryRun optionSets tables relationships
        userRelationships).registry.store report.kind).get? name = some id ↔
      LastIdentified report.items name id := by
  rw [← Registry.get?_identifiersOf_iff]
  rw [reports_ofItems, List.mem_cons, List.mem_cons, List.mem_singleton] at member
  rcases member with rfl | rfl | rfl
  · have same := OrderedMap.ofList_entries (Registry.identifiersOf optionSets)
    exact iff_of_eq (congrArg (fun map => map.get? name = some id) same)
  · have same := OrderedMap.ofList_entries (Registry.identifiersOf tables)
    exact iff_of_eq (congrArg (fun map => map.get? name = some id) same)
  · -- Both kinds of relationships are written into one store, those with users last.
    have first := OrderedMap.ofList_entries (Registry.identifiersOf relationships)
    have both : (ofItems diagnostics dryRun optionSets tables relationships
        userRelationships).registry.store .relationship =
        (OrderedMap.ofList (Registry.identifiersOf relationships).entries).insertAll
          (Registry.identifiersOf userRelationships).entries :=
      rfl
    rw [both, first, OrderedMap.get?_insertAll_entries, Registry.get?_identifiersOf_append]

end Summary

end ErdDeploy
