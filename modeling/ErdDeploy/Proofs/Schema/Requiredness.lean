import ErdDeploy.Proofs.Schema.Origin
import Mathlib.Data.List.Forall2

/-!
Which relationships are required.

The column of a relationship is called as its reference names it, but whether it is
required is read from the field that has the name of the lookup. The injection of
lookups keeps what was declared of that field, unless it is a key, and a lookup that
takes over no field is not required (`Model.relationships_required`).

So the marks of the field that the reference names count only if the field has the
name of the lookup. A required field of any other name becomes a column that may
stay empty (`Model.not_keepsRequired`).
-/

namespace ErdDeploy

/-- Whether a table declares a required field with the name of the lookup of a reference, and not
as a key. -/
def Table.lendsRequired (before : Table) (r : Reference) : Bool :=
  (before.fields.get? r.lookupName).any fun f => !f.isPrimaryKey && f.isRequired

/-- A relationship is required as its reference's own field was declared, unless that is a key. -/
def Relationship.KeepsRequired (declared : OrderedMap Table) (r : Reference)
    (made : Relationship) : Prop :=
  ∀ before ∈ declared.get? r.toTable, ∀ f ∈ before.fields.get? r.toField,
    f.isPrimaryKey = false → made.isRequired = f.isRequired

instance (declared : OrderedMap Table) (r : Reference) (made : Relationship) :
    Decidable (made.KeepsRequired declared r) :=
  inferInstanceAs (Decidable (∀ before ∈ declared.get? r.toTable,
    ∀ f ∈ before.fields.get? r.toField,
      f.isPrimaryKey = false → made.isRequired = f.isRequired))

/-- What the lookup of an effective reference takes from the table as it was. -/
theorem Relationship.lookupRequired_inject {tables : OrderedMap Table} {references : List Reference}
    {r : Reference} {before : Table} (found : tables.get? r.toTable = some before)
    (own : Lookup.OwnNames before.fields) (among : r ∈ references)
    (effective : isEffective tables r = true) :
    lookupRequired (Lookup.inject tables references).1 r = before.lendsRequired r := by
  have into : r ∈ Lookup.into tables r.toTable references :=
    Lookup.mem_into.mpr ⟨among, effective, rfl⟩
  simp only [lookupRequired, Lookup.get?_inject, found, Option.map_some,
    Option.bind_some, Table.lendsRequired]
  cases stored : before.fields.get? r.lookupName with
  | none =>
      -- Whatever lookup came under this name, no field was there to make it required.
      have undeclared : ∀ field, before.fields.get? r.lookupName = some field →
          field.isRequired = false := by
        intro field declared
        rw [stored] at declared
        cases declared
      have free := Lookup.isRequired_of_get?_putAll own
        (Lookup.into tables r.toTable references) undeclared
      split
      · next field after => rw [free field after, Bool.and_false, Option.any_none]
      · rfl
  | some f =>
      have named : f.name = r.lookupName := own r.lookupName f stored
      rw [Lookup.get?_putAll_of_get? own _ stored, Option.any_some]
      simp only [Lookup.throughAll_isRequired]
      cases key : f.isPrimaryKey with
      | true =>
          rw [Lookup.throughAll_eq_self _ (Or.inl key),
            Lookup.isLookup_eq_false_of_isPrimaryKey key]
          rfl
      | false =>
          have taken := Lookup.isLookup_throughAll_of_claims
            (Lookup.into tables r.toTable references) key ⟨r, into, Or.inl named⟩
          rw [taken]
          rfl

namespace Model

/-- The references that resolve to the relationships of the model, in order. -/
def effective (m : Model) : List Reference :=
  m.references.filter (Relationship.isEffective m.tables)

/-- Required fields are not always kept: this one is called otherwise than the lookup. -/
theorem not_keepsRequired :
    ¬ ∀ (rules : NamingRules) (strict : Bool) (text : String) (m : Model)
      (declared : OrderedMap Table),
      ofText rules strict text = .ok m → declaredTables rules text = .ok declared →
        List.Forall₂ (fun r made => made.KeepsRequired declared r) m.effective
          m.relationships := by
  intro kept
  obtain ⟨text, lost⟩ : ∃ text, ((ofText {} true text).toOption.map fun m =>
      (declaredTables {} text).toOption.map fun declared =>
        decide (List.Forall₂ (fun r made => made.KeepsRequired declared r)
          m.effective m.relationships)) = some (some false) := by
    refine ⟨"Table C \x7b\n\x7d\nTable I \x7b\nb GUID [not null]\n\x7d\nRef: C.id < I.b", ?_⟩
    decide +kernel
  obtain ⟨m, read, lost⟩ := exists_of_toOption_map lost
  obtain ⟨declared, made, lost⟩ := exists_of_toOption_map lost
  exact of_decide_eq_false lost (kept {} true text m declared read made)

section

variable {rules : NamingRules} {declared : OrderedMap Table} {m : Model} {r : Reference}

/-- What the lookup of an effective reference takes from the declared table. -/
theorem lookupRequired_of_effective (origin : m.Origin rules declared)
    (member : r ∈ m.effective) :
    ∃ before, declared.get? r.toTable = some before ∧
      Relationship.lookupRequired m.tables r = before.lendsRequired r := by
  obtain ⟨among, effective⟩ := List.mem_filter.mp member
  rw [origin.tables, Lookup.isEffective_congr (Lookup.names_inject _)] at effective
  have known := effective
  simp only [Relationship.isEffective, Bool.and_eq_true, OrderedMap.contains_iff] at known
  obtain ⟨-, before, declaredAt⟩ := known
  have own := (origin.table r.toTable before declaredAt).2.ownNames
  refine ⟨before, declaredAt, ?_⟩
  rw [origin.tables]
  exact Relationship.lookupRequired_inject declaredAt own among effective

end

/-- **Required relationships.** Every effective reference has its relationship, which is called as
the reference says and is required exactly if the declared table has a required field with the name
of the lookup that is no key. If the reference names that field itself, the relationship is required
as it was declared. -/
theorem relationships_required {rules : NamingRules} {strict : Bool} {text : String} {m : Model}
    (read : ofText rules strict text = .ok m) :
    ∃ declared, declaredTables rules text = .ok declared ∧
      List.Forall₂ (fun r made => made.lookupDisplayName = r.toField ∧
          (∃ before, declared.get? r.toTable = some before ∧
            made.isRequired = before.lendsRequired r) ∧
          (r.toField = r.lookupName → made.KeepsRequired declared r))
        m.effective m.relationships := by
  obtain ⟨declared, made, origin⟩ := origin_of_ofText read
  refine ⟨declared, made, ?_⟩
  have relationships : m.relationships =
      m.effective.map (Relationship.ofReference rules m.tables) := origin.relationships
  rw [relationships, List.forall₂_map_right_iff, List.forall₂_same]
  intro r member
  obtain ⟨before, declaredAt, lends⟩ := lookupRequired_of_effective origin member
  refine ⟨rfl, ⟨before, declaredAt, lends⟩, fun same other found f stored free => ?_⟩
  have here : other = before := Option.some.inj (found.symm.trans declaredAt)
  subst here
  have required : other.lendsRequired r = f.isRequired := by
    rw [Table.lendsRequired, ← same, stored, Option.any_some, free]
    rfl
  exact lends.trans required

/-- Two references, one to the field with the name of the lookup and one to another field. -/
def twoReferences : String :=
  "Table C \x7b\n\x7d\nTable I \x7b\ncid GUID [not null]\nb GUID\n\x7d\n" ++
    "Ref: C.id < I.cid\nRef: C.id < I.b"

theorem relationships_required_of_two_references :
    ∃ m, ofText {} true twoReferences = .ok m ∧
      ∃ declared, declaredTables {} twoReferences = .ok declared ∧
        List.Forall₂ (fun r made => made.lookupDisplayName = r.toField ∧
            (∃ before, declared.get? r.toTable = some before ∧
              made.isRequired = before.lendsRequired r) ∧
            (r.toField = r.lookupName → made.KeepsRequired declared r))
          m.effective m.relationships := by
  have readable : (ofText {} true twoReferences).isOk = true := by decide +kernel
  obtain ⟨m, read⟩ := exists_of_isOk readable
  exact ⟨m, read, relationships_required read⟩

end Model

end ErdDeploy
