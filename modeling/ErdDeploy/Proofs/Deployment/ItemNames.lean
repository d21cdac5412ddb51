import ErdDeploy.Proofs.Deployment.MemoryRun
import ErdDeploy.Proofs.Deployment.Reports

/-!
What items are called.

Every object of a model has a remote name (`Model.remoteNames`). The item of a table
or of a relationship bears it whatever becomes of the object. The item of an option
set bears it, too, unless the option set fails: the item is then called as the enum
was declared, so that two runs of one model can report it under two names
(`Model.not_namesKept`).

`Model.item_names` compares two runs with any two clients that answer: the reports
about tables and relationships name the same objects in the same order, and the
report about option sets does so unless some enum, whose remote name differs from
its own, has failed in just one of them.
-/

namespace ErdDeploy

open MemoryRemote

/-! ## Objects and reports by kind -/

/-- The remote names of the objects of a kind, in the order of the model. -/
def Model.remoteNames (m : Model) (settings : SchemaSettings) : ObjectKind → List String
  | .optionSet => m.enumNames.map settings.naming.optionSetName
  | .table => m.tables.values.map Table.schemaName
  | .relationship => (m.relationships ++ m.userRelationships).map Relationship.schemaName

/-- The report about a kind of objects. -/
def Summary.report (summary : Summary) : ObjectKind → Report
  | .optionSet => summary.optionSets
  | .table => summary.tables
  | .relationship => summary.relationships

/-! ## Two names for one object -/

/-- The names of the items of a summary, report by report. -/
def Summary.itemNames (summary : Summary) : List (List String) :=
  summary.reports.map fun report => report.items.map Item.name

/-- An enum is reported under one name by a run that creates its option set, and under another
one by a run that fails to. -/
theorem Model.not_namesKept :
    ¬ ∀ (text : String) (settings : SchemaSettings) (m : Model) (dryRun : Bool)
        (remote remote' : MemoryRemote) (one two : Summary),
      Model.ofText settings.naming false text = .ok m →
      remote.HoldsTexts → remote'.HoldsTexts →
      (m.deploy (some client) settings dryRun remote).result = .ok one →
      (m.deploy (some client) settings dryRun remote').result = .ok two →
        one.itemNames = two.itemNames := by
  intro kept
  have named : ((Model.ofText {} false "Enum S \x7b\nA\n\x7d").toOption.bind fun m =>
      (m.deploy (some client) {} false empty).result.toOption.bind fun one =>
        (m.deploy (some client) {} false
          (empty.withFailures choiceRefused)).result.toOption.map
            fun two => (one.itemNames, two.itemNames)) =
      some ([["new_s"], [], []], [["S"], [], []]) := by
    decide +kernel
  obtain ⟨m, read, named⟩ := exists_of_toOption_bind named
  obtain ⟨one, ran, named⟩ := exists_of_toOption_bind named
  obtain ⟨two, ran', both⟩ := exists_of_toOption_map named
  obtain ⟨created, refused⟩ := Prod.mk.inj both
  have same := kept _ {} m false _ _ one two read holdsTexts_empty
    (holdsTexts_empty.withFailures _) ran ran'
  rw [created, refused] at same
  simp at same

/-! ## The names of a summary -/

/-- The items of a summary are named after the objects of the model: by their remote names, but
a failed option set by the name of its enum. -/
structure Summary.NamedAfter (m : Model) (settings : SchemaSettings) (summary : Summary) :
    Prop where
  optionSets : List.Forall₂
    (fun enum item => item.name =
      if item.outcome = .failed then enum else settings.naming.optionSetName enum)
    m.enumNames summary.optionSets.items
  others : ∀ kind, kind ≠ .optionSet →
    (summary.report kind).items.map Item.name = m.remoteNames settings kind

section

variable {m : Model} {settings : SchemaSettings}

theorem Summary.namedAfter_ofItems
    {optionSets tables relationships userRelationships : List Item} {ids : OrderedMap String}
    (dryRun : Bool)
    (first : List.Forall₂ Task.Reported (optionSetTasks settings m) optionSets)
    (second : List.Forall₂ Task.Reported (tableTasks settings ids m) tables)
    (third : List.Forall₂ Task.Reported (relationshipTasks settings [] m.relationships)
      relationships)
    (fourth : List.Forall₂ Task.Reported (relationshipTasks settings [] m.userRelationships)
      userRelationships) :
    (Summary.ofItems m.diagnostics dryRun optionSets tables relationships
      userRelationships).NamedAfter m settings where
  optionSets := by
    have named := names_of_optionSetTasks first
    rw [Model.enumNames, List.forall₂_map_left_iff]
    exact named
  others := by
    intro kind other
    have ofTables := map_of_forall₂ (names_of_tableTasks second) fun _ _ named => named.symm
    have ofBoth := map_of_forall₂
      (List.rel_append (names_of_relationshipTasks third) (names_of_relationshipTasks fourth))
      fun _ _ named => named.symm
    cases kind with
    | optionSet => exact absurd rfl other
    | table => exact ofTables.symm
    | relationship => exact ofBoth.symm

/-- With any client that answers, or without one in a dry run, the items are named after the
objects. -/
theorem Model.namedAfter {σ : Type} (m : Model) (settings : SchemaSettings) (dryRun : Bool)
    (client : Option (Client σ)) (state : σ) (offered : client = none → dryRun = true)
    (answers : ∀ c ∈ client, c.Answers) :
    ∃ summary, (m.deploy client settings dryRun state).result = .ok summary ∧
      summary.NamedAfter m settings := by
  cases client with
  | none =>
      cases offered rfl
      obtain ⟨_, _, _, _, result, first, second, third, fourth⟩ :=
        m.reported settings true state Client.answers_vacant
      rw [m.deploy_offline settings state]
      exact ⟨_, result, Summary.namedAfter_ofItems true first second third fourth⟩
  | some client =>
      obtain ⟨_, _, _, _, result, first, second, third, fourth⟩ :=
        m.reported settings dryRun state (answers client rfl)
      exact ⟨_, result, Summary.namedAfter_ofItems dryRun first second third fourth⟩

/-! ## Two runs -/

/-- Two lists of items about the same enums have the same names exactly if each enum, unless its
two names are one, has failed in both or in neither. -/
theorem names_eq_iff {enums : List String} {items items' : List Item} {remoteName : String → String}
    (first : List.Forall₂ (fun enum item => item.name =
      if item.outcome = .failed then enum else remoteName enum) enums items)
    (second : List.Forall₂ (fun enum item => item.name =
      if item.outcome = .failed then enum else remoteName enum) enums items') :
    items.map Item.name = items'.map Item.name ↔
      ∀ entry ∈ enums.zip (items.zip items'), remoteName entry.1 = entry.1 ∨
        (entry.2.1.outcome = .failed ↔ entry.2.2.outcome = .failed) := by
  induction first generalizing items' with
  | nil =>
      cases second
      simp
  | @cons enum item enums items here _ ih =>
      cases second with
      | @cons _ item' _ items' there rest =>
          have one : item.name = item'.name ↔ remoteName enum = enum ∨
              (item.outcome = .failed ↔ item'.outcome = .failed) := by
            rw [here, there]
            by_cases failed : item.outcome = .failed <;>
              by_cases failed' : item'.outcome = .failed <;>
                simp [failed, failed', eq_comm]
          rw [List.map_cons, List.map_cons, List.cons.injEq, ih rest, one, List.zip_cons_cons,
            List.zip_cons_cons, List.forall_mem_cons]

/-- **Names of items.** Take two runs of a model, with any clients that answer, or without one in a
dry run. Both name their items after the objects of the model, so the reports about tables and about
relationships have the same names in the same order. So has the report about option sets, exactly
unless some enum whose remote name is not its own has failed in just one of the runs. -/
theorem Model.item_names {σ τ : Type} (m : Model) (settings : SchemaSettings)
    (dryRun dryRun' : Bool) (client : Option (Client σ)) (client' : Option (Client τ))
    (state : σ) (state' : τ) (offered : client = none → dryRun = true)
    (offered' : client' = none → dryRun' = true) (answers : ∀ c ∈ client, c.Answers)
    (answers' : ∀ c ∈ client', c.Answers) :
    ∃ one two, (m.deploy client settings dryRun state).result = .ok one ∧
      (m.deploy client' settings dryRun' state').result = .ok two ∧
      one.NamedAfter m settings ∧ two.NamedAfter m settings ∧
      (∀ kind, kind ≠ .optionSet →
        (one.report kind).items.map Item.name = (two.report kind).items.map Item.name) ∧
      (one.optionSets.items.map Item.name = two.optionSets.items.map Item.name ↔
        ∀ entry ∈ m.enumNames.zip (one.optionSets.items.zip two.optionSets.items),
          settings.naming.optionSetName entry.1 = entry.1 ∨
            (entry.2.1.outcome = .failed ↔ entry.2.2.outcome = .failed)) := by
  obtain ⟨one, ran, named⟩ := m.namedAfter settings dryRun client state offered answers
  obtain ⟨two, ran', named'⟩ := m.namedAfter settings dryRun' client' state' offered' answers'
  refine ⟨one, two, ran, ran', named, named', fun kind other => ?_, ?_⟩
  · rw [named.others kind other, named'.others kind other]
  · exact names_eq_iff named.optionSets named'.optionSets

/-- A dry run without a client, and a run whose creations are all refused. -/
theorem Model.item_names_refused :
    ((none : Option (Client Unit)) = none → true = true) ∧
      ((some Client.vacant : Option (Client Unit)) = none → false = true) ∧
      (∀ c ∈ (none : Option (Client Unit)), c.Answers) ∧
      (∀ c ∈ (some Client.vacant : Option (Client Unit)), c.Answers) ∧
      ∃ m, Model.ofText {} false choiceAndUser = .ok m ∧
        ∃ one two,
          (m.deploy (none : Option (Client Unit)) {} true ()).result = .ok one ∧
          (m.deploy (some (Client.vacant (σ := Unit))) {} false ()).result = .ok two ∧
          one.NamedAfter m {} ∧ two.NamedAfter m {} ∧
          (∀ kind, kind ≠ .optionSet →
            (one.report kind).items.map Item.name = (two.report kind).items.map Item.name) ∧
          (one.optionSets.items.map Item.name = two.optionSets.items.map Item.name ↔
            ∀ entry ∈ m.enumNames.zip (one.optionSets.items.zip two.optionSets.items),
              NamingRules.optionSetName {} entry.1 = entry.1 ∨
                (entry.2.1.outcome = .failed ↔ entry.2.2.outcome = .failed)) := by
  have offered : (none : Option (Client Unit)) = none → true = true := fun _ => rfl
  have offered' : (some Client.vacant : Option (Client Unit)) = none → false = true := nofun
  have answers : ∀ c ∈ (none : Option (Client Unit)), c.Answers := nofun
  have answers' : ∀ c ∈ (some Client.vacant : Option (Client Unit)), c.Answers := by
    intro c member
    cases member
    exact Client.answers_vacant
  obtain ⟨m, read⟩ := exists_ofText_choiceAndUser
  exact ⟨offered, offered', answers, answers', m, read,
    m.item_names {} true false none (some Client.vacant) () () offered offered' answers answers'⟩

end

end ErdDeploy
