import ErdDeploy.Proofs.Schema.Injection
import Mathlib.Data.List.Forall2

/-!
What the injection of lookups leaves as it was.

Behind some references the fields of a table come as they came before, each one taken through
the references by itself, and only lookups come new, at the end (`entries_putAll`). A field
is either left as it was or taken over, once, by one of the references that claim it
(`throughAll_cases`), and no key ever is. So a table keeps the field that names its rows, and
whatever is not claimed (`inject_frame`).
-/

namespace ErdDeploy.Lookup

/-- How a field is found behind some references, beside what it was. -/
structure Kept (references : List Reference) (before after : Field) : Prop where
  name : after.name = before.name
  isRequired : after.isRequired = before.isRequired
  key : before.isPrimaryKey = true → after = before
  changed : after ≠ before → after.isLookup = true ∧
    ∃ r ∈ references, Claims r before.name ∧ after = takeOver before r

/-- How a table is found behind some references into it, beside what it was. -/
structure Framed (references : List Reference) (before after : Table) : Prop where
  rest : after = { before with fields := after.fields }
  fields : ∃ front added, after.fields.entries = front ++ added ∧
    List.Forall₂ (fun old new => new.1 = old.1 ∧ Kept references old.2 new.2)
      before.fields.entries front ∧
    ∀ entry ∈ added, entry.2.isPrimaryKey = false ∧ entry.2 ∉ after.attributeFields
  displayField : after.displayField = before.displayField

/-! ## Fields -/

section

variable (references : List Reference)

/-- A field is left as it was, or taken over by a reference that claims it. Being taken over again
would leave no trace of the first time. -/
theorem throughAll_cases (field : Field) :
    throughAll references field = field ∨
      field.isPrimaryKey = false ∧ ∃ r ∈ references, Claims r field.name ∧
        throughAll references field = takeOver field r := by
  induction references generalizing field with
  | nil => exact Or.inl rfl
  | cons r rest ih =>
      rw [throughAll, List.foldl_cons]
      rcases through_cases r field with same | ⟨free, claims, taken⟩
      · rw [same]
        rcases ih field with left | ⟨free, other, member, claims, taken⟩
        · exact Or.inl left
        · exact Or.inr ⟨free, other, List.mem_cons_of_mem _ member, claims, taken⟩
      · rw [taken]
        refine Or.inr ⟨free, ?_⟩
        rcases ih (takeOver field r) with left | ⟨-, other, member, claims', taken'⟩
        · exact ⟨r, List.mem_cons_self, claims, left⟩
        · exact ⟨other, List.mem_cons_of_mem _ member, claims', taken'⟩

theorem kept_throughAll (field : Field) : Kept references field (throughAll references field) := by
  rcases throughAll_cases references field with same | ⟨free, r, member, claims, taken⟩
  · rw [same]
    exact ⟨rfl, rfl, fun _ => rfl, fun changed => absurd rfl changed⟩
  · rw [taken]
    refine ⟨rfl, rfl, fun key => ?_, fun _ => ⟨rfl, r, member, claims, rfl⟩⟩
    rw [free] at key
    cases key

variable {fields : OrderedMap Field}

/-- The fields stand where they stood, and behind them stand new lookups only. -/
theorem entries_putAll (own : OwnNames fields) :
    ∃ added, (putAll references fields).entries =
        (fields.entries.map fun entry => (entry.1, throughAll references entry.2)) ++ added ∧
      ∀ entry ∈ added, entry.2.isLookup = true := by
  obtain ⟨extra, names⟩ := exists_names_putAll references fields
  rw [OrderedMap.entries_eq, names, List.filterMap_append]
  refine ⟨_, congrArg (· ++ _) ?_, ?_⟩
  · rw [OrderedMap.names, List.filterMap_map, ← List.filterMap_eq_map]
    refine List.filterMap_congr fun entry member => ?_
    have stored := OrderedMap.get?_eq_some_iff.mpr member
    simp only [Function.comp_apply, get?_putAll_of_get? own references stored, Option.map_some]
  · intro entry member
    obtain ⟨name, new, found⟩ := List.mem_filterMap.mp member
    obtain ⟨field, stored, rfl⟩ := Option.map_eq_some_iff.mp found
    have absent : name ∉ fields.names := by
      have distinct := (putAll references fields).distinct
      rw [← OrderedMap.names, names, List.nodup_append] at distinct
      exact fun present => distinct.2.2 name present name new rfl
    -- Whatever stands under a name that was not there came as a lookup.
    refine forall_get?_putAll (P := fun f => f.isLookup = true) own references (fun _ _ => rfl)
      (fun _ _ _ _ => rfl) name (fun f before => ?_) field stored
    rw [OrderedMap.get?_eq_none_iff.mpr absent] at before
    cases before

theorem values_putAll (own : OwnNames fields) :
    ∃ added, (putAll references fields).values =
        fields.values.map (throughAll references) ++ added ∧
      ∀ field ∈ added, field.isLookup = true := by
  obtain ⟨added, entries, lookups⟩ := entries_putAll references own
  refine ⟨added.map Prod.snd, ?_, List.forall_mem_map.mpr lookups⟩
  rw [OrderedMap.values, entries, List.map_append, OrderedMap.values, List.map_map, List.map_map]
  rfl

end

/-! ## Tables -/

/-- A table is named by the same key as before, or lacks one as before. -/
theorem displayField_putAll {t : Table} (own : OwnNames t.fields) (references : List Reference) :
    { t with fields := putAll references t.fields }.displayField = t.displayField := by
  obtain ⟨added, values, lookups⟩ := values_putAll references own
  have noKey : added.find? Field.isPrimaryKey = none := by
    rw [List.find?_eq_none]
    intro field member key
    have lookup := lookups field member
    rw [isLookup_eq_false_of_isPrimaryKey key] at lookup
    cases lookup
  have same : (putAll references t.fields).values.find? Field.isPrimaryKey =
      t.fields.values.find? Field.isPrimaryKey := by
    rw [values, List.find?_append, noKey, Option.or_none, List.find?_map]
    have keys : Field.isPrimaryKey ∘ throughAll references = Field.isPrimaryKey :=
      funext (throughAll_isPrimaryKey references)
    rw [keys]
    cases found : t.fields.values.find? Field.isPrimaryKey with
    | none => rfl
    | some key =>
        exact congrArg some (throughAll_eq_self references (Or.inl (List.find?_some found)))
  rw [Table.displayField, Table.displayField, same]

theorem framed_putAll {t : Table} (own : OwnNames t.fields) (references : List Reference) :
    Framed references t { t with fields := putAll references t.fields } := by
  obtain ⟨added, entries, lookups⟩ := entries_putAll references own
  refine ⟨rfl, ⟨_, added, entries, ?_, ?_⟩, displayField_putAll own references⟩
  · rw [List.forall₂_map_right_iff, List.forall₂_same]
    exact fun entry _ => ⟨rfl, kept_throughAll references entry.2⟩
  · intro entry member
    have lookup := lookups entry member
    constructor
    · rw [← Bool.not_eq_true]
      intro key
      rw [isLookup_eq_false_of_isPrimaryKey key] at lookup
      cases lookup
    · intro listed
      have direct := (List.mem_filter.mp listed).2
      rw [Field.isDeferred, lookup, Bool.true_or, Bool.not_true, Bool.and_false] at direct
      cases direct

/-- **What injection keeps.** The tables keep their names and their order. In each table the fields
keep their places, names and requiredness, new ones that are neither keys nor attributes stand
behind them, and the key that names the rows is the same. A field that changes is no key, is claimed
by an effective reference into the table, and becomes the lookup of such a reference. -/
theorem inject_frame {tables : OrderedMap Table}
    (own : ∀ name t, tables.get? name = some t → OwnNames t.fields) (references : List Reference) :
    (inject tables references).1.names = tables.names ∧
      ∀ name before, tables.get? name = some before →
        ∃ after, (inject tables references).1.get? name = some after ∧
          Framed (into tables name references) before after := by
  refine ⟨names_inject references, fun name before found => ?_⟩
  refine ⟨_, ?_, framed_putAll (own name before found) (into tables name references)⟩
  rw [get?_inject, found, Option.map_some]

/-- Tables with references of which one leads into its own table, one has the name of a key for
its lookup, and one names the lookup that another one puts. -/
def entangled : OrderedMap Table × List Reference :=
  (.ofList
      [("C", ⟨"C", "new_c", .ofList [("cid", .plain "cid" "GUID" .primaryKey true 2)], false, 1⟩),
        ("I", ⟨"I", "new_i", .ofList [("id", .plain "id" "GUID" .primaryKey true 5),
          ("b", .plain "b" "Int" .scalar true 6),
          ("l", .plain "l" "Lookup" (.lookup none) false 7)], false, 4⟩)],
    [⟨"C", "cid", .manyToOne, "C", "parent", 9⟩, ⟨"C", "cid", .manyToOne, "I", "iid", 10⟩,
      ⟨"I", "id", .manyToOne, "I", "b", 11⟩, ⟨"C", "cid", .manyToOne, "I", "l", 12⟩,
      ⟨"X", "id", .manyToOne, "I", "b", 13⟩])

/-- What is stored can be checked entry by entry. -/
theorem ownNames_of_entries {tables : OrderedMap Table}
    (checked : ∀ t ∈ tables.values, ∀ entry ∈ t.fields.entries, entry.2.name = entry.1) :
    ∀ name t, tables.get? name = some t → OwnNames t.fields := by
  intro name t found field f stored
  exact checked t (OrderedMap.mem_values_iff.mpr ⟨name, found⟩) _
    (OrderedMap.get?_eq_some_iff.mp stored)

theorem ownNames_entangled :
    ∀ name t, entangled.1.get? name = some t → OwnNames t.fields := by
  apply ownNames_of_entries
  decide +kernel

theorem inject_frame_of_entangled :
    (∀ name t, entangled.1.get? name = some t → OwnNames t.fields) ∧
      (inject entangled.1 entangled.2).1.names = entangled.1.names ∧
      ∀ name before, entangled.1.get? name = some before →
        ∃ after, (inject entangled.1 entangled.2).1.get? name = some after ∧
          Framed (into entangled.1 name entangled.2) before after :=
  ⟨ownNames_entangled, inject_frame ownNames_entangled entangled.2⟩

end ErdDeploy.Lookup
