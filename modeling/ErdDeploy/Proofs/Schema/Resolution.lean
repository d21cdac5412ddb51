import ErdDeploy.Proofs.Deployment.Columns
import ErdDeploy.Proofs.Schema.Requiredness

/-!
Which relationships the references of a model resolve to.

The ends of a relationship get their remote names from the naming rules, and the tables
got theirs from the same rules when their blocks were read. So the relationship of an effective
reference joins the two tables of the reference by the names that they are created under
(`Relationship.Joins`), and there is one for each effective reference, in order.

A reference that is not effective is inert. Injecting lookups and resolving references
skip it by conditions of their own, which come to the same (`Lookup.injectOne_of_inert`). It
can be left out of the references of a model, and nothing but a warning about unknown
tables goes with it (`Model.references_resolve`).
-/

namespace ErdDeploy

/-- A relationship joins the tables of a reference, by the names that they are created under, and
its column is called as the reference says. -/
structure Relationship.Joins (tables : OrderedMap Table) (r : Reference) (made : Relationship) :
    Prop where
  column : made.kind = .table ∧ made.lookupDisplayName = r.toField
  referenced : ∃ t, tables.get? r.fromTable = some t ∧ made.referencedEntity = t.schemaName ∧
    made.referencedAttribute = t.schemaName ++ "id" ∧
    ∀ settings known payload warnings,
      TablePayload.ofTable settings known t = .ok (payload, warnings) →
        payload.schemaName = made.referencedEntity
  referencing : ∃ t, tables.get? r.toTable = some t ∧ made.referencingEntity = t.schemaName ∧
    ∀ settings known payload warnings,
      TablePayload.ofTable settings known t = .ok (payload, warnings) →
        payload.schemaName = made.referencingEntity

/-! ## Inert references -/

namespace Lookup

section

variable {tables : OrderedMap Table} {r : Reference}

/-- The references of a list are injected up to some place, and the rest behind it. -/
theorem inject_append (earlier later : List Reference) :
    inject tables (earlier ++ later) =
      ((inject (inject tables earlier).1 later).1,
        (inject tables earlier).2 ++ (inject (inject tables earlier).1 later).2) := by
  induction earlier generalizing tables with
  | nil => rfl
  | cons r rest ih => simp only [List.cons_append, inject, ih, List.append_assoc]

/-- A reference that is not effective adds its own warnings to those of the others. -/
theorem inject_around_inert (inert : Relationship.isEffective tables r = false)
    (earlier later : List Reference) :
    ∃ back, (inject tables (earlier ++ r :: later)).2 =
        (inject tables earlier).2 ++ inertWarnings tables r ++ back ∧
      (inject tables (earlier ++ later)).2 = (inject tables earlier).2 ++ back := by
  have names : (inject tables earlier).1.names = tables.names := names_inject earlier
  have inert' : Relationship.isEffective (inject tables earlier).1 r = false := by
    rw [isEffective_congr names, inert]
  refine ⟨(inject (inject tables earlier).1 later).2, ?_, ?_⟩
  · simp only [inject_append, inject, injectOne_of_inert inert', inertWarnings_congr names,
      List.append_assoc]
  · rw [inject_append]

/-- The tables depend on the effective references only. -/
theorem inject_congr {references references' : List Reference}
    (same : references'.filter (Relationship.isEffective tables) =
      references.filter (Relationship.isEffective tables)) :
    (inject tables references').1 = (inject tables references).1 := by
  have into_eq : ∀ name references, into tables name references =
      (references.filter (Relationship.isEffective tables)).filter fun r => r.toTable == name := by
    intro name references
    rw [into, List.filter_filter]
    congr 1
    funext r
    rw [Bool.and_comm]
  apply OrderedMap.ext_get?
  · rw [names_inject, names_inject]
  · intro name
    rw [get?_inject, get?_inject, into_eq, into_eq, same]

end

end Lookup

/-! ## References of a model -/

namespace Model

/-- The model of the statements of a source with other references in place of its own. -/
def ofReferences (rules : NamingRules) (extract : Extract) (references : List Reference) :
    Except Text.NumeralError Model :=
  ofExtract rules { extract with references := references }

/-- Two models have the same tables and relationships. -/
structure SameSchema (m m' : Model) : Prop where
  tables : m.tables = m'.tables
  relationships : m.relationships = m'.relationships
  userRelationships : m.userRelationships = m'.userRelationships

section

variable {rules : NamingRules} {declared : OrderedMap Table} {m : Model} {r : Reference}

theorem joins_of_effective (origin : m.Origin rules declared) (member : r ∈ m.effective) :
    (Relationship.ofReference rules m.tables r).Joins m.tables r := by
  have effective := (List.mem_filter.mp member).2
  simp only [Relationship.isEffective, Bool.and_eq_true, OrderedMap.contains_iff] at effective
  rcases effective with ⟨⟨-, source, foundSource⟩, target, foundTarget⟩
  have sourceName := origin.schemaName foundSource
  have targetName := origin.schemaName foundTarget
  refine ⟨⟨rfl, rfl⟩, ?_, ?_⟩
  · refine ⟨source, foundSource, sourceName.symm, ?_, ?_⟩
    · rw [sourceName]
      rfl
    · intro settings known payload warnings planned
      rw [(TablePayload.signatures_ofTable planned).1, sourceName]
      rfl
  · refine ⟨target, foundTarget, targetName.symm, ?_⟩
    intro settings known payload warnings planned
    rw [(TablePayload.signatures_ofTable planned).1, targetName]
    rfl

end

section

variable {rules : NamingRules} {extract : Extract} {interpreted : List (Table × List Diagnostic)}
  {m : Model}

/-- Which references of a model are effective can be told from the declared tables. -/
theorem isEffective_ofTables (made : m = ofTables rules extract interpreted) :
    Relationship.isEffective m.tables =
      Relationship.isEffective (tablesOf (interpreted.map Prod.fst)) := by
  subst made
  exact Lookup.isEffective_congr (Lookup.names_inject extract.references)

/-- Other references with the same effective ones make the same tables and relationships. -/
theorem sameSchema_of_effective (made : m = ofTables rules extract interpreted)
    {references : List Reference}
    (same : references.filter (Relationship.isEffective m.tables) = m.effective) :
    (ofTables rules { extract with references := references } interpreted).SameSchema m := by
  rw [effective, isEffective_ofTables made] at same
  subst made
  have tables : (Lookup.inject (tablesOf (interpreted.map Prod.fst)) references).1 =
      (Lookup.inject (tablesOf (interpreted.map Prod.fst)) extract.references).1 :=
    Lookup.inject_congr same
  refine ⟨tables, ?_, ?_⟩
  · change Relationship.resolve rules (Lookup.inject _ references).1 references =
      Relationship.resolve rules (Lookup.inject _ extract.references).1 extract.references
    rw [tables, Relationship.resolve, Relationship.resolve,
      Lookup.isEffective_congr (Lookup.names_inject _), same]
    rfl
  · change Relationship.resolveUsers rules (Lookup.inject _ references).1 =
      Relationship.resolveUsers rules (Lookup.inject _ extract.references).1
    rw [tables]

/-- What is reported of a model, stage by stage. -/
theorem diagnostics_ofTables : (ofTables rules extract interpreted).diagnostics =
    extract.diagnostics ++ enumWarnings [] extract.enums ++ tableWarnings [] interpreted ++
      (Lookup.inject (tablesOf (interpreted.map Prod.fst)) extract.references).2 ++
        Relationship.repeatedNames rules [] (ofTables rules extract interpreted).effective :=
  rfl

/-- Leaving out a reference that is not effective takes away its own warnings, and nothing else
that is reported. -/
theorem diagnostics_around_inert (made : m = ofTables rules extract interpreted)
    {earlier later : List Reference} {r : Reference}
    (references : extract.references = earlier ++ r :: later)
    (inert : Relationship.isEffective m.tables r = false) :
    ∃ front back, m.diagnostics = front ++ Lookup.inertWarnings m.tables r ++ back ∧
      (ofTables rules { extract with references := earlier ++ later } interpreted).diagnostics =
        front ++ back := by
  have names : m.tables.names = (tablesOf (interpreted.map Prod.fst)).names := by
    rw [made]
    exact Lookup.names_inject extract.references
  have kept : (earlier ++ later).filter (Relationship.isEffective m.tables) = m.effective := by
    have all : m.references = earlier ++ r :: later := by
      rw [made, ← references]
      rfl
    rw [effective, all, List.filter_append, List.filter_append,
      List.filter_cons_of_neg (by rw [inert]; exact Bool.false_ne_true)]
  have effective' : (ofTables rules { extract with references := earlier ++ later }
      interpreted).effective = m.effective := by
    rw [← kept, effective, (sameSchema_of_effective made kept).tables]
    rfl
  rw [isEffective_ofTables made] at inert
  rcases Lookup.inject_around_inert inert earlier later with ⟨back, around, without⟩
  refine ⟨extract.diagnostics ++ enumWarnings [] extract.enums ++ tableWarnings [] interpreted ++
      (Lookup.inject (tablesOf (interpreted.map Prod.fst)) earlier).2,
    back ++ Relationship.repeatedNames rules [] m.effective, ?_, ?_⟩
  · rw [Lookup.inertWarnings_congr names, made, diagnostics_ofTables, references, around]
    simp only [List.append_assoc]
  · rw [diagnostics_ofTables, effective', without]
    simp only [List.append_assoc]

end

/-- **References and relationships.** The relationships of a model are those of its effective
references, one for each and in order, between the tables as they are named. References that are
not effective may be left out, or others put in, without a change of any table or relationship.
Leaving one of them out takes away the warning that its tables are unknown, if it has the direction
that takes effect, and nothing else that is reported. -/
theorem references_resolve {rules : NamingRules} {strict : Bool} {text : String} {m : Model}
    (read : ofText rules strict text = .ok m) :
    List.Forall₂ (fun r made => made.Joins m.tables r) m.effective m.relationships ∧
      (∀ references, references.filter (Relationship.isEffective m.tables) = m.effective →
        ∃ m', ofReferences rules (Extract.ofText text) references = .ok m' ∧ m'.SameSchema m) ∧
      ∀ earlier r later, m.references = earlier ++ r :: later →
        Relationship.isEffective m.tables r = false →
          ∃ m' front back,
            ofReferences rules (Extract.ofText text) (earlier ++ later) = .ok m' ∧
            m.diagnostics = front ++ Lookup.inertWarnings m.tables r ++ back ∧
            m'.diagnostics = front ++ back := by
  rcases origin_of_ofText read with ⟨declared, -, origin⟩
  rcases exists_interpreted read with ⟨interpreted, tables, made⟩
  have readable : ∀ references, ofReferences rules (Extract.ofText text) references =
      .ok (ofTables rules { Extract.ofText text with references := references } interpreted) := by
    intro references
    rw [ofReferences, ofExtract, tables]
    rfl
  refine ⟨?_, ?_, ?_⟩
  · have relationships : m.relationships =
        m.effective.map (Relationship.ofReference rules m.tables) := origin.relationships
    rw [relationships, List.forall₂_map_right_iff, List.forall₂_same]
    exact fun r member => joins_of_effective origin member
  · intro references same
    exact ⟨_, readable references, sameSchema_of_effective made same⟩
  · intro earlier r later references inert
    have among : (Extract.ofText text).references = earlier ++ r :: later := by
      rw [← references, made]
      rfl
    rcases diagnostics_around_inert made among inert with ⟨front, back, reported, without⟩
    exact ⟨_, front, back, readable _, reported, without⟩

/-- A reference in the inverse direction, one from a table that is there already, and one from a
table that is unknown. -/
def threeReferences : String :=
  "Table existing_A \x7b\naid GUID [pk]\n\x7d\nTable C \x7b\nid GUID [pk]\n\x7d\n" ++
    "Ref: C.a > existing_A.aid\nRef: existing_A.aid < C.a\nRef: V.id < C.v"

/-- Of three references one resolves, and the two others are inert. -/
theorem references_resolve_one_of_three :
    ∃ m, ofText {} true threeReferences = .ok m ∧
      m.references.map (Relationship.isEffective m.tables) = [false, true, false] ∧
      List.Forall₂ (fun r made => made.Joins m.tables r) m.effective m.relationships ∧
      (∀ references, references.filter (Relationship.isEffective m.tables) = m.effective →
        ∃ m', ofReferences {} (Extract.ofText threeReferences) references = .ok m' ∧
          m'.SameSchema m) ∧
      ∀ earlier r later, m.references = earlier ++ r :: later →
        Relationship.isEffective m.tables r = false →
          ∃ m' front back,
            ofReferences {} (Extract.ofText threeReferences) (earlier ++ later) = .ok m' ∧
            m.diagnostics = front ++ Lookup.inertWarnings m.tables r ++ back ∧
            m'.diagnostics = front ++ back := by
  have effective : (ofText {} true threeReferences).toOption.map
      (fun m => m.references.map (Relationship.isEffective m.tables)) =
        some [false, true, false] := by
    decide +kernel
  obtain ⟨m, read, resolved⟩ := exists_of_toOption_map effective
  exact ⟨m, read, resolved, references_resolve read⟩

end Model

end ErdDeploy
