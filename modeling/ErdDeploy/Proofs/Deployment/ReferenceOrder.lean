import ErdDeploy.Deployment.Build
import ErdDeploy.Proofs.Schema.Frame
import ErdDeploy.Proofs.Schema.Requiredness

/-!
The order of references.

References are put into a table one after the other, and each of them may find fields
that the ones before have taken over. So their order shows in the fields: it decides
which reference a lookup points at, and where a lookup that no line declares stands.

It does not show in what is deployed. A field is left alone exactly if it is a key or no
reference claims it (`Lookup.Stays`), whichever comes first, and the fields that are left
alone keep their places (`Table.ownFields_putAll`). The attributes of a table and its
user fields are read from those only, and whether a relationship is required is read from
the tables as they were declared. So the same references in another order make the same
payloads, the same user relationships, and the same relationships in another order
(`Lookup.inject_order`).
-/

namespace ErdDeploy

namespace Lookup

/-! ## Fields that are left alone -/

instance (r : Reference) (name : String) : Decidable (Claims r name) :=
  inferInstanceAs (Decidable (name = r.lookupName ∨ name = r.toField))

/-- A field that is no lookup, and does not become one when some references are put. -/
def Stays (references : List Reference) (f : Field) : Prop :=
  f.isLookup = false ∧ (f.isPrimaryKey = true ∨ ∀ r ∈ references, ¬ Claims r f.name)

instance (references : List Reference) (f : Field) : Decidable (Stays references f) :=
  inferInstanceAs (Decidable (_ ∧ (_ ∨ ∀ r ∈ references, ¬ Claims r f.name)))

section

variable {references references' : List Reference} {fields : OrderedMap Field}

theorem stays_perm (perm : references.Perm references') (f : Field) :
    Stays references f ↔ Stays references' f := by
  simp only [Stays, perm.mem_iff]

/-- Behind all references the fields that are no lookups are those that stay. -/
theorem isLookup_throughAll_iff (f : Field) :
    (throughAll references f).isLookup = false ↔ Stays references f := by
  constructor
  · intro none
    have free : f.isLookup = false := by
      rw [← Bool.not_eq_true]
      intro already
      rw [isLookup_throughAll references already] at none
      cases none
    refine ⟨free, ?_⟩
    by_contra taken
    rw [not_or, Bool.not_eq_true] at taken
    obtain ⟨noKey, claimed⟩ := taken
    simp only [not_forall, not_not] at claimed
    obtain ⟨r, member, claims⟩ := claimed
    rw [isLookup_throughAll_of_claims references noKey ⟨r, member, claims⟩] at none
    cases none
  · intro stays
    rw [throughAll_eq_self references stays.2, stays.1]

/-- The fields that are no lookups after some references were put are those that stay. -/
theorem filter_values_putAll (own : OwnNames fields) (references : List Reference) :
    (putAll references fields).values.filter (fun f => !f.isLookup) =
      fields.values.filter fun f => decide (Stays references f) := by
  obtain ⟨added, values, lookups⟩ := values_putAll references own
  have none : added.filter (fun f => !f.isLookup) = [] := by
    rw [List.filter_eq_nil_iff]
    intro f member
    rw [lookups f member]
    exact Bool.false_ne_true
  have stay : (fun f => !f.isLookup) ∘ throughAll references =
      fun f => decide (Stays references f) := by
    funext f
    rw [Function.comp_apply, Bool.eq_iff_iff, Bool.not_eq_true', decide_eq_true_iff,
      isLookup_throughAll_iff]
  rw [values, List.filter_append, none, List.append_nil, List.filter_map, stay]
  conv_rhs => rw [← List.map_id (fields.values.filter _)]
  refine List.map_congr_left fun f member => ?_
  have stays := of_decide_eq_true (List.mem_filter.mp member).2
  exact throughAll_eq_self references stays.2

end

end Lookup

/-! ## What a table deploys -/

namespace Table

/-- The fields of a table that are no lookups, in order. -/
def ownFields (t : Table) : List Field :=
  t.fields.values.filter fun f => !f.isLookup

/-- The relationships of the fields of a table that refer to a user. -/
def userRelationships (rules : NamingRules) (t : Table) : List Relationship :=
  (t.fields.values.filter Field.isUserReference).map (Relationship.ofUserReference rules t)

variable {t t' : Table}

theorem find?_ownFields : t.ownFields.find? Field.isPrimaryKey =
    t.fields.values.find? Field.isPrimaryKey := by
  rw [ownFields, List.find?_filter]
  congr 1
  funext f
  cases key : f.isPrimaryKey with
  | false => simp
  | true => simp [Lookup.isLookup_eq_false_of_isPrimaryKey key]

theorem attributeFields_eq : t.attributeFields =
    t.ownFields.filter fun f => !f.isPrimaryKey && !f.isDeferred := by
  rw [ownFields, List.filter_filter, attributeFields]
  congr 1
  funext f
  rw [Field.isDeferred, Bool.not_or]
  cases f.isLookup <;> simp

theorem filter_isUserReference : t.fields.values.filter Field.isUserReference =
    t.ownFields.filter Field.isUserReference := by
  rw [ownFields, List.filter_filter]
  congr 1
  funext f
  cases user : f.isUserReference with
  | false => rw [Bool.false_and]
  | true =>
      rw [Field.isUserReference, beq_iff_eq] at user
      rw [Field.isLookup, user]
      rfl

/-- The payload of a table is made from its own fields. -/
theorem ofTable_congr (settings : SchemaSettings) (known : OrderedMap String)
    (name : t.name = t'.name) (schemaName : t.schemaName = t'.schemaName)
    (ownFields : t.ownFields = t'.ownFields) :
    TablePayload.ofTable settings known t = TablePayload.ofTable settings known t' := by
  have display : t.displayField = t'.displayField := by
    rw [displayField, displayField, ← find?_ownFields, ← find?_ownFields, ownFields, name]
  rw [TablePayload.ofTable, TablePayload.ofTable, display, attributeFields_eq, attributeFields_eq,
    ownFields, name, schemaName]

theorem userRelationships_congr (rules : NamingRules) (name : t.name = t'.name)
    (schemaName : t.schemaName = t'.schemaName) (ownFields : t.ownFields = t'.ownFields) :
    t.userRelationships rules = t'.userRelationships rules := by
  have same : Relationship.ofUserReference rules t = Relationship.ofUserReference rules t' := by
    funext f
    rw [Relationship.ofUserReference, Relationship.ofUserReference, name, schemaName]
  rw [userRelationships, userRelationships, filter_isUserReference, filter_isUserReference,
    ownFields, same]

/-- The own fields of a table do not depend on the order of the references that were put. -/
theorem ownFields_putAll (own : Lookup.OwnNames t.fields) {references references' : List Reference}
    (perm : references.Perm references') :
    { t with fields := Lookup.putAll references t.fields }.ownFields =
      { t with fields := Lookup.putAll references' t.fields }.ownFields := by
  rw [ownFields, ownFields, Lookup.filter_values_putAll own, Lookup.filter_values_putAll own]
  simp only [Lookup.stays_perm perm]

end Table

theorem Relationship.resolveUsers_eq (rules : NamingRules) (tables : OrderedMap Table) :
    resolveUsers rules tables =
      (tables.mapValues (Table.userRelationships rules)).values.flatten := by
  rw [OrderedMap.values_mapValues]
  rfl

/-! ## References in another order -/

namespace Lookup

section

variable {tables : OrderedMap Table} {references references' : List Reference}

/-- Whatever reads only the names and the own fields of tables reads the same of every table. -/
theorem mapValues_inject_perm {β : Type} {read : Table → β}
    (own : ∀ name t, tables.get? name = some t → OwnNames t.fields)
    (perm : references.Perm references')
    (reads : ∀ t t' : Table, t.name = t'.name → t.schemaName = t'.schemaName →
      t.ownFields = t'.ownFields → read t = read t') :
    (inject tables references).1.mapValues read = (inject tables references').1.mapValues read := by
  refine OrderedMap.ext_get? ?_ fun name => ?_
  · rw [OrderedMap.names_mapValues, OrderedMap.names_mapValues, names_inject, names_inject]
  · rw [OrderedMap.get?_mapValues, OrderedMap.get?_mapValues, get?_inject, get?_inject]
    cases found : tables.get? name with
    | none => rfl
    | some t =>
        exact congrArg some (reads _ _ rfl rfl
          (Table.ownFields_putAll (own name t found) (perm.filter _)))

/-- The same references resolve to the same relationships, wherever they stand. -/
theorem resolve_inject_perm (rules : NamingRules)
    (own : ∀ name t, tables.get? name = some t → OwnNames t.fields)
    (perm : references.Perm references') :
    (Relationship.resolve rules (inject tables references).1 references).Perm
      (Relationship.resolve rules (inject tables references').1 references') := by
  have effective : ∀ references, Relationship.isEffective (inject tables references).1 =
      Relationship.isEffective tables := fun references => isEffective_congr (names_inject _)
  have same : ∀ r ∈ references.filter (Relationship.isEffective tables),
      Relationship.ofReference rules (inject tables references).1 r =
        Relationship.ofReference rules (inject tables references').1 r := by
    intro r member
    obtain ⟨among, effective⟩ := List.mem_filter.mp member
    have known := effective
    simp only [Relationship.isEffective, Bool.and_eq_true, OrderedMap.contains_iff] at known
    obtain ⟨-, before, found⟩ := known
    have kept := own r.toTable before found
    have required := Relationship.lookupRequired_inject found kept among effective
    have required' :=
      Relationship.lookupRequired_inject found kept (perm.mem_iff.mp among) effective
    rw [Relationship.ofReference, Relationship.ofReference, required, required']
  rw [Relationship.resolve, Relationship.resolve, effective, effective, List.map_congr_left same]
  exact (perm.filter _).map _

end

/-- **Order of references.** Tables whose fields are stored under their own names have the same
payloads, or lack a key alike, whichever order the lookups of some references are injected in; the
user relationships are the same, and the relationships are the same up to their order. -/
theorem inject_order {tables : OrderedMap Table} {references references' : List Reference}
    (own : ∀ name t, tables.get? name = some t → OwnNames t.fields)
    (perm : references.Perm references') (rules : NamingRules) (settings : SchemaSettings)
    (known : OrderedMap String) :
    (inject tables references).1.mapValues (TablePayload.ofTable settings known) =
        (inject tables references').1.mapValues (TablePayload.ofTable settings known) ∧
      Relationship.resolveUsers rules (inject tables references).1 =
        Relationship.resolveUsers rules (inject tables references').1 ∧
      (Relationship.resolve rules (inject tables references).1 references).Perm
        (Relationship.resolve rules (inject tables references').1 references') := by
  refine ⟨?_, ?_, resolve_inject_perm rules own perm⟩
  · exact mapValues_inject_perm own perm fun t t' => Table.ofTable_congr settings known
  · rw [Relationship.resolveUsers_eq, Relationship.resolveUsers_eq,
      mapValues_inject_perm own perm fun t t' => Table.userRelationships_congr rules]

/-- A table with a field that two other tables can be referred to by. -/
def claimedField : String :=
  "Table C \x7b\nid GUID [pk]\n\x7d\nTable D \x7b\nid GUID [pk]\n\x7d\n" ++
    "Table I \x7b\nid GUID [pk]\nb GUID [not null]\nn Int\n\x7d"

/-- Two references that claim the same field: the first one of them decides where it points. -/
theorem inject_order_of_two_references :
    ∃ (declared : OrderedMap Table) (c d : Reference),
      Model.declaredTables {} claimedField = .ok declared ∧
      c = ⟨"C", "id", .manyToOne, "I", "b", 1⟩ ∧ d = ⟨"D", "id", .manyToOne, "I", "b", 2⟩ ∧
      (∀ name t, declared.get? name = some t → OwnNames t.fields) ∧ [c, d].Perm [d, c] ∧
      (inject declared [c, d]).1.mapValues (TablePayload.ofTable {} .empty) =
          (inject declared [d, c]).1.mapValues (TablePayload.ofTable {} .empty) ∧
        Relationship.resolveUsers {} (inject declared [c, d]).1 =
          Relationship.resolveUsers {} (inject declared [d, c]).1 ∧
        (Relationship.resolve {} (inject declared [c, d]).1 [c, d]).Perm
          (Relationship.resolve {} (inject declared [d, c]).1 [d, c]) := by
  have readable : (Model.declaredTables {} claimedField).isOk = true := by decide +kernel
  obtain ⟨declared, made⟩ := exists_of_isOk readable
  have own : ∀ name t, declared.get? name = some t → OwnNames t.fields := by
    intro name t found
    obtain ⟨-, block, -, warnings, ofBlock⟩ := Model.exists_block_of_declaredTables made found
    exact (Table.declared_of_ofBlock ofBlock).ownNames
  exact ⟨declared, _, _, made, rfl, rfl, own, .swap _ _ [],
    inject_order own (.swap _ _ []) {} {} .empty⟩

end Lookup

end ErdDeploy
