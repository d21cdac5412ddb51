import ErdDeploy.Proofs.Deployment.Fates

/-!
Relationships that repeat a name.

A stage of relationships remembers the names it has come across, and fails a
relationship whose name it has seen. But there are two such stages, one for
relationships between tables and one for relationships with users, and the second
starts without the names of the first. A relationship with users whose name one
between tables has is therefore looked up, and it finds the other one
(`Model.not_failsRepeated`).

`Model.repeated_names` says what does hold: a name that is repeated within a stage
fails, and one that is repeated across the stages comes to the item of the first
relationship over again, as existing where that one was created. What lets the two
items be compared is that the item of a target can be read off the remote that the
target meets (`Target.itemOn`).
-/

namespace ErdDeploy

open MemoryRemote

/-! ## Names across stages -/

/-- In a run, every relationship whose name an earlier one of the model has is reported as
failed. -/
def Model.FailsRepeated (m : Model) (settings : SchemaSettings) (dryRun : Bool)
    (remote : MemoryRemote) : Prop :=
  ∀ summary, (m.deploy (some client) settings dryRun remote).result = .ok summary →
    ∀ before r later, m.relationships ++ m.userRelationships = before ++ r :: later →
      r.schemaName ∈ before.map Relationship.schemaName →
        (summary.relationships.items[before.length]?).map Item.outcome = some .failed

/-- A field that refers to a user, and a reference between tables, that come to one name. -/
def meetingUser : String :=
  "Table T \x7b\nid GUID [pk]\nf Person\n\x7d\n" ++
    "Table f_systemuser \x7b\nid GUID [pk]\n\x7d\nRef: T.id < f_systemuser.tid"

/-- A relationship with users is reported as existing if one between tables has its name. -/
theorem Model.not_failsRepeated :
    ¬ ∀ (text : String) (settings : SchemaSettings) (m : Model) (dryRun : Bool)
        (remote : MemoryRemote), Model.ofText settings.naming false text = .ok m →
      remote.HoldsTexts → m.FailsRepeated settings dryRun remote := by
  intro fails
  have taken : ((Model.ofText {} false meetingUser).toOption.bind fun m =>
      (m.deploy (some client) {} false empty).result.toOption.map fun summary =>
        ((m.relationships ++ m.userRelationships).map Relationship.schemaName,
          summary.relationships.items.map Item.outcome)) =
      some (["new_T_f_systemuser", "new_T_f_systemuser"], [.created, .existing]) := by
    decide +kernel
  obtain ⟨m, read, taken⟩ := exists_of_toOption_bind taken
  obtain ⟨summary, ran, both⟩ := exists_of_toOption_map taken
  obtain ⟨names, outcomes⟩ := Prod.mk.inj both
  obtain ⟨first, rest, split, one, others⟩ := List.map_eq_cons_iff.mp names
  obtain ⟨second, none, rfl, two, -⟩ := List.map_eq_cons_iff.mp others
  have outcome := fails _ {} m false empty read holdsTexts_empty summary ran [first] second none
    split (by simp [one, two])
  rw [← List.getElem?_map, outcomes] at outcome
  cases outcome

/-! ## Items that are met again -/

section

variable {dryRun : Bool} {remote after : MemoryRemote} {exchanges : List Exchange}

/-- The item of a target that is met once more: what was created is there by then. -/
def Item.seenAgain (item : Item) : Item :=
  if item.outcome = .created then { item with outcome := .existing } else item

/-- A second relationship of a name comes to the item of the first one over again. -/
theorem Target.Fares.seenAgain {settings : SchemaSettings} {r other : Relationship}
    {start finish resume : MemoryRemote} {item again : Item} {now between later : List Exchange}
    {tasks : List Task} {items : List Item} (same : other.schemaName = r.schemaName)
    (first : (ofRelationship settings r).Fares dryRun start item now finish)
    (passage : Passage dryRun finish tasks items between resume)
    (second : (ofRelationship settings other).Fares dryRun resume again later after) :
    again = item.seenAgain := by
  have failures : resume.failures = start.failures :=
    passage.growth.failures.trans first.growth.failures
  have chain := Passage.next (.converge first) passage
  -- What the first one did not bring about, nothing else did in between.
  have absent : (ofRelationship settings r).Missed start →
      ¬ (dryRun = false ∧ start.failures.lookup (.create r.schemaName) = none) →
      (resume.store .relationship).get? r.schemaName = none := by
    intro missed shut
    have answered : start.failures.lookup (.find r.schemaName) = none := missed.answered
    rw [OrderedMap.get?_eq_none_iff, chain.mem_names_iff answered]
    rintro (stored | ⟨wet, accepted, -⟩)
    · exact OrderedMap.get?_eq_none_iff.mp missed.absent stored
    · exact shut ⟨wet, accepted⟩
  rw [second.item_eq]
  simp only [itemOn, ofRelationship, same, failures]
  cases first with
  | @lookupFailed failure _ failing _ =>
      have failing : start.failures.lookup (.find r.schemaName) = some failure := failing
      rw [failing]
      rfl
  | @found id _ answered stored _ =>
      have answered : start.failures.lookup (.find r.schemaName) = none := answered
      have stored : (start.store .relationship).get? r.schemaName = some (.text id) := stored
      rw [answered, chain.growth.retains stored]
      rfl
  | unplanned _ plan _ => cases plan
  | skipped missed _ dry _ =>
      have answered : start.failures.lookup (.find r.schemaName) = none := missed.answered
      rw [answered, absent missed (by simp [dry]), if_pos dry]
      rfl
  | @refused _ _ failure _ missed _ wet failing _ =>
      have answered : start.failures.lookup (.find r.schemaName) = none := missed.answered
      have failing : start.failures.lookup (.create r.schemaName) = some failure := failing
      rw [answered, absent missed (by simp [failing]), if_neg (by simp [wet]), failing]
      rfl
  | created missed _ _ _ _ _ gained =>
      have answered : start.failures.lookup (.find r.schemaName) = none := missed.answered
      have stored : (finish.store .relationship).get? r.schemaName =
          some (.text start.nextIdentifier) := by
        have store : finish.store .relationship = _ := gained.store
        rw [store]
        exact OrderedMap.get?_insert_self _ _ _
      rw [answered, passage.growth.retains stored]
      rfl

end

/-! ## One stage -/

/-- The item of a relationship whose name is repeated. -/
def Relationship.repeatedItem (r : Relationship) : Item :=
  .failed r.schemaName
    (s!"Lookup {r.lookupDisplayName}: relationship name " ++ "already used by another declaration")

section

variable {settings : SchemaSettings} {dryRun : Bool} {remote after : MemoryRemote}
  {items : List Item} {exchanges : List Exchange}

/-- A relationship that repeats a name of its stage fails. -/
theorem Passage.repeated_item {before later : List Relationship} {r : Relationship}
    (passage : Passage dryRun remote (relationshipTasks settings [] (before ++ r :: later)) items
      exchanges after) (repeated : r.schemaName ∈ before.map Relationship.schemaName) :
    items[before.length]? = some r.repeatedItem := by
  obtain ⟨front, behind, length, split⟩ := @relationshipTasks_at settings before later r
  rw [split, if_pos repeated] at passage
  obtain ⟨item, _, _, _, _, _, _, _, here, -, fares, -⟩ := passage.item_at
  cases fares
  rwa [length] at here

/-- The first relationship of a name in its stage is looked up. -/
theorem Passage.first_item {before later : List Relationship} {r : Relationship}
    (passage : Passage dryRun remote (relationshipTasks settings [] (before ++ r :: later)) items
      exchanges after) (first : r.schemaName ∉ before.map Relationship.schemaName) :
    ∃ item tasks front past start now finish rest back future,
      items[before.length]? = some item ∧
      Passage dryRun remote tasks front past start ∧
      (Target.ofRelationship settings r).Fares dryRun start item now finish ∧
      Passage dryRun finish rest back future after := by
  obtain ⟨front, rest, length, split⟩ := @relationshipTasks_at settings before later r
  rw [split, if_neg first] at passage
  obtain ⟨item, _, _, _, _, _, _, _, here, earlier, fares, behind⟩ := passage.item_at
  cases fares with
  | converge fares =>
      rw [length] at here
      exact ⟨item, _, _, _, _, _, _, _, _, _, here, earlier, fares, behind⟩

end

/-! ## Runs -/

section

variable {dryRun : Bool} {settings : SchemaSettings} {m : Model} {remote after : MemoryRemote}
  {summary : Summary} {exchanges : List Exchange}

theorem Visit.repeated_relationship {before later : List Relationship} {r : Relationship}
    (visit : Visit dryRun settings m remote summary exchanges after)
    (declared : m.relationships = before ++ r :: later)
    (repeated : r.schemaName ∈ before.map Relationship.schemaName) :
    summary.relationships.items[before.length]? = some r.repeatedItem := by
  obtain ⟨-, -, third, -⟩ := visit
  rw [declared] at third
  have here := third.repeated_item repeated
  obtain ⟨inside, -⟩ := List.getElem?_eq_some_iff.mp here
  rw [Summary.items_relationships_ofItems, List.getElem?_append_left inside, here]

theorem Visit.repeated_userRelationship {before later : List Relationship} {r : Relationship}
    (visit : Visit dryRun settings m remote summary exchanges after)
    (declared : m.userRelationships = before ++ r :: later)
    (repeated : r.schemaName ∈ before.map Relationship.schemaName) :
    summary.relationships.items[m.relationships.length + before.length]? =
      some r.repeatedItem := by
  obtain ⟨-, -, third, fourth⟩ := visit
  have length := third.length_items
  rw [length_relationshipTasks] at length
  rw [declared] at fourth
  rw [Summary.items_relationships_ofItems, ← length,
    List.getElem?_append_right (Nat.le_add_right _ _), Nat.add_sub_cancel_left]
  exact fourth.repeated_item repeated

/-- The first relationship with users of a name that one between tables has comes to the item of
that one over again. -/
theorem Visit.shared_relationship {front back before later : List Relationship}
    {r user : Relationship} (visit : Visit dryRun settings m remote summary exchanges after)
    (declared : m.relationships = front ++ r :: back)
    (declared' : m.userRelationships = before ++ user :: later)
    (same : user.schemaName = r.schemaName)
    (first : r.schemaName ∉ front.map Relationship.schemaName)
    (first' : user.schemaName ∉ before.map Relationship.schemaName) :
    ∃ item, summary.relationships.items[front.length]? = some item ∧
      summary.relationships.items[m.relationships.length + before.length]? =
        some item.seenAgain := by
  obtain ⟨-, -, third, fourth⟩ := visit
  have length := third.length_items
  rw [length_relationshipTasks] at length
  rw [declared] at third
  rw [declared'] at fourth
  obtain ⟨item, _, _, _, _, _, _, _, _, _, here, -, fares, behind⟩ := third.first_item first
  obtain ⟨again, _, _, _, _, _, _, _, _, _, there, ahead, fares', -⟩ := fourth.first_item first'
  -- What is done between the two ends one stage and begins the next one.
  have between := behind.append ahead
  have repeated : again = item.seenAgain := fares.seenAgain same between fares'
  obtain ⟨inside, -⟩ := List.getElem?_eq_some_iff.mp here
  rw [Summary.items_relationships_ofItems, List.getElem?_append_left inside, ← length,
    List.getElem?_append_right (Nat.le_add_right _ _), Nat.add_sub_cancel_left, there, repeated]
  exact ⟨item, here, rfl⟩

end

/-- **Repeated names.** In a run on a remote that holds texts, a relationship between tables whose
name an earlier one between tables has fails, and so does one with users whose name an earlier one
with users has. But the first relationship with users of a name that one between tables has comes to
the item of the first such one over again: it is existing where that one was created or existing,
and it fails only where that one failed. -/
theorem Model.repeated_names (m : Model) (settings : SchemaSettings) (dryRun : Bool)
    {remote : MemoryRemote} (texts : remote.HoldsTexts) :
    ∃ summary, (m.deploy (some client) settings dryRun remote).result = .ok summary ∧
      (∀ before r later, m.relationships = before ++ r :: later →
        r.schemaName ∈ before.map Relationship.schemaName →
          summary.relationships.items[before.length]? = some r.repeatedItem) ∧
      (∀ before r later, m.userRelationships = before ++ r :: later →
        r.schemaName ∈ before.map Relationship.schemaName →
          summary.relationships.items[m.relationships.length + before.length]? =
            some r.repeatedItem) ∧
      ∀ front r back before user later, m.relationships = front ++ r :: back →
        m.userRelationships = before ++ user :: later → user.schemaName = r.schemaName →
          r.schemaName ∉ front.map Relationship.schemaName →
            user.schemaName ∉ before.map Relationship.schemaName →
              ∃ item, summary.relationships.items[front.length]? = some item ∧
                summary.relationships.items[m.relationships.length + before.length]? =
                  some item.seenAgain := by
  obtain ⟨summary, result, visit⟩ := m.visit settings dryRun texts
  refine ⟨summary, result, ?_, ?_, ?_⟩
  · exact fun before r later declared => visit.repeated_relationship declared
  · exact fun before r later declared => visit.repeated_userRelationship declared
  · exact fun front r back before user later declared declared' =>
      visit.shared_relationship declared declared'

theorem Model.repeated_names_across_stages :
    empty.HoldsTexts ∧
      ∃ m, Model.ofText {} false meetingUser = .ok m ∧
        ∃ r user, m.relationships = [] ++ r :: [] ∧ m.userRelationships = [] ++ user :: [] ∧
          user.schemaName = r.schemaName ∧
          ∃ summary, (m.deploy (some client) {} false empty).result = .ok summary ∧
            ∃ item, summary.relationships.items[0]? = some item ∧
              summary.relationships.items[1]? = some item.seenAgain := by
  have readable : ((Model.ofText {} false meetingUser).toOption.map fun m =>
        (m.relationships.map Relationship.schemaName,
          m.userRelationships.map Relationship.schemaName)) =
      some (["new_T_f_systemuser"], ["new_T_f_systemuser"]) := by
    decide +kernel
  obtain ⟨m, read, both⟩ := exists_of_toOption_map readable
  obtain ⟨tables, users⟩ := Prod.mk.inj both
  obtain ⟨r, _, declared, named, rest⟩ := List.map_eq_cons_iff.mp tables
  obtain ⟨user, _, declared', named', rest'⟩ := List.map_eq_cons_iff.mp users
  cases List.map_eq_nil_iff.mp rest
  cases List.map_eq_nil_iff.mp rest'
  have same : user.schemaName = r.schemaName := named'.trans named.symm
  obtain ⟨summary, result, -, -, shared⟩ := m.repeated_names {} false holdsTexts_empty
  obtain ⟨item, here, there⟩ := shared [] r [] [] user [] declared declared' same (by simp)
    (by simp)
  rw [declared] at there
  exact ⟨holdsTexts_empty, m, read, r, user, declared, declared', same, summary, result, item, here,
    there⟩

end ErdDeploy
