import ErdDeploy.Proofs.Schema.Frame

/-!
Injecting the same lookups again.

A reference that was put has nothing left to do: the field with the name of its lookup is a
key or points somewhere, and the field that it names itself is a key or a lookup, if it is
there at all (`Settled`). No other reference undoes this, since keys stay keys, lookups
stay lookups and what points somewhere is left alone. So when all references were put,
each of them is settled, and putting them again changes nothing (`putAll_putAll`).

What is said of a reference depends on which tables there are and which fields are keys, and
this injection never changes. So every reference is warned about as it would be in the tables
before any of them was injected (`warnings_inject`), and a second injection comes to the tables
and the warnings of the first (`inject_inject`).
-/

namespace ErdDeploy.Lookup

/-! ## References that have nothing left to do -/

/-- Putting the reference changes nothing any more. -/
structure Settled (r : Reference) (fields : OrderedMap Field) : Prop where
  named : ∃ f, fields.get? r.lookupName = some f ∧
    (f.isPrimaryKey = true ∨ f.lookupTable.isSome = true)
  column : ∀ f, fields.get? r.toField = some f → f.isPrimaryKey = true ∨ f.isLookup = true

section

variable {fields : OrderedMap Field} {r r' : Reference}

theorem named_settled (r : Reference) (found : Option Field) :
    (named r found).isPrimaryKey = true ∨ (named r found).lookupTable.isSome = true := by
  cases found with
  | none => exact Or.inr rfl
  | some f =>
      rw [named]
      split
      · next kept => rwa [Bool.or_eq_true] at kept
      · exact Or.inr rfl

theorem yielded_settled (r : Reference) (f : Field) :
    (yielded r f).isPrimaryKey = true ∨ (yielded r f).isLookup = true := by
  rw [yielded]
  split
  · next kept => rwa [Bool.or_eq_true, or_comm] at kept
  · exact Or.inr rfl

/-- A reference that was put is settled. -/
theorem settled_put (own : OwnNames fields) (r : Reference) : Settled r (put r fields) := by
  refine ⟨⟨_, ?_, named_settled r (fields.get? r.lookupName)⟩, fun f found => ?_⟩
  · rw [get?_put own, if_pos rfl]
  · rw [get?_put own] at found
    split at found
    · cases found
      exact (named_settled r _).imp_right isLookup_of_lookupTable
    · rw [if_pos rfl] at found
      obtain ⟨earlier, -, rfl⟩ := Option.map_eq_some_iff.mp found
      exact yielded_settled r earlier

/-- Another reference leaves a settled one settled. -/
theorem Settled.put (settled : Settled r fields) (own : OwnNames fields) (r' : Reference) :
    Settled r (put r' fields) := by
  constructor
  · obtain ⟨f, found, key | points⟩ := settled.named
    · refine ⟨_, get?_put_of_get? own found, Or.inl ?_⟩
      rw [through_isPrimaryKey, key]
    · refine ⟨_, get?_put_of_get? own found, Or.inr ?_⟩
      rw [through_of_lookupTable points, points]
  · intro f found
    cases stored : fields.get? r.toField with
    | some earlier =>
        rw [get?_put_of_get? own stored] at found
        cases found
        rw [through_isPrimaryKey]
        exact (settled.column earlier stored).imp_right (isLookup_through r')
    | none =>
        -- A field that was not there can only have come as the lookup of the other reference.
        rw [get?_put own, stored] at found
        split at found
        · cases found
          exact Or.inr rfl
        · split at found
          · cases found
          · cases found

/-- A settled reference changes nothing. -/
theorem Settled.put_eq (settled : Settled r fields) : Lookup.put r fields = fields := by
  obtain ⟨f, found, kept⟩ := settled.named
  rw [← Bool.or_eq_true] at kept
  have named : putNamed r fields = fields := by
    simp only [putNamed, found, if_pos kept]
  rw [Lookup.put, named, putColumn]
  split
  · rfl
  · next column stored =>
    have kept : (column.isLookup || column.isPrimaryKey) = true := by
      rw [Bool.or_eq_true]
      exact (settled.column column stored).symm
    rw [Bool.or_assoc, kept, Bool.or_true, if_pos rfl]

theorem Settled.putAll (settled : Settled r fields) (own : OwnNames fields)
    (references : List Reference) : Settled r (putAll references fields) := by
  induction references generalizing fields with
  | nil => exact settled
  | cons r' rest ih => exact ih (settled.put own r') own.put

theorem settled_putAll (own : OwnNames fields) (references : List Reference) :
    ∀ r ∈ references, Settled r (putAll references fields) := by
  induction references generalizing fields with
  | nil => exact fun r none => nomatch none
  | cons r rest ih =>
      intro other member
      rcases List.mem_cons.mp member with rfl | later
      · exact (settled_put own other).putAll own.put rest
      · exact ih own.put other later

theorem putAll_of_settled {references : List Reference}
    (settled : ∀ r ∈ references, Settled r fields) : putAll references fields = fields := by
  induction references with
  | nil => rfl
  | cons r rest ih =>
      rw [Lookup.putAll, List.foldl_cons, (settled r List.mem_cons_self).put_eq]
      exact ih fun other member => settled other (List.mem_cons_of_mem _ member)

/-- References that were put in some fields are put again without effect. -/
theorem putAll_putAll (own : OwnNames fields) (references : List Reference) :
    putAll references (putAll references fields) = putAll references fields :=
  putAll_of_settled (settled_putAll own references)

end

/-! ## Warnings -/

/-- Whether a key stands under a name. -/
def isKeyAt (fields : OrderedMap Field) (name : String) : Bool :=
  ((fields.get? name).map Field.isPrimaryKey).getD false

/-- The same tables, with keys under the same names. -/
structure SameKeys (tables tables' : OrderedMap Table) : Prop where
  names : tables'.names = tables.names
  keys : ∀ name t t', tables.get? name = some t → tables'.get? name = some t' →
    isKeyAt t'.fields = isKeyAt t.fields

theorem SameKeys.refl (tables : OrderedMap Table) : SameKeys tables tables := by
  refine ⟨rfl, fun name t t' found found' => ?_⟩
  rw [found] at found'
  cases found'
  rfl

section

variable {tables tables' : OrderedMap Table} {fields fields' : OrderedMap Field}

theorem isKeyAt_putAll (own : OwnNames fields) (references : List Reference) :
    isKeyAt (putAll references fields) = isKeyAt fields := by
  funext name
  unfold isKeyAt
  cases stored : fields.get? name with
  | some f =>
      rw [get?_putAll_of_get? own references stored, Option.map_some, Option.map_some,
        throughAll_isPrimaryKey]
  | none =>
      have noKey := forall_get?_putAll (P := fun f => f.isPrimaryKey = false) own references
        (fun _ _ => rfl) (fun _ _ _ _ => rfl) name fun f found => by
          rw [stored] at found
          cases found
      cases found : (putAll references fields).get? name with
      | none => rfl
      | some f => exact noKey f found

theorem keyNames_congr (same : isKeyAt fields' = isKeyAt fields) (r : Reference) :
    keyNames r fields' = keyNames r fields := by
  have at' : ∀ name, ((fields'.get? name).map Field.isPrimaryKey).getD false =
      ((fields.get? name).map Field.isPrimaryKey).getD false := congrFun same
  simp only [keyNames, at']

/-- What is said of a reference depends on the names of the tables and the keys only. -/
theorem SameKeys.warnings (same : SameKeys tables tables') (r : Reference) :
    (injectOne r tables').2 = (injectOne r tables).2 := by
  have effective' := congrFun (isEffective_congr same.names) r
  cases effective : Relationship.isEffective tables r with
  | false =>
      rw [effective] at effective'
      rw [injectOne_of_inert effective, injectOne_of_inert effective',
        inertWarnings_congr same.names]
  | true =>
      rw [effective] at effective'
      obtain ⟨t, found, warned⟩ := injectOne_of_effective effective
      obtain ⟨t', found', warned'⟩ := injectOne_of_effective effective'
      rw [warned, warned', keyNames_congr (same.keys r.toTable t t' found found') r]

theorem SameKeys.trans {tables'' : OrderedMap Table} (first : SameKeys tables tables')
    (second : SameKeys tables' tables'') : SameKeys tables tables'' := by
  refine ⟨second.names.trans first.names, fun name t t'' found found'' => ?_⟩
  have present : name ∈ tables'.names := by
    rw [first.names]
    exact OrderedMap.mem_names_of_get? found
  obtain ⟨t', found'⟩ := OrderedMap.contains_iff.mp (OrderedMap.contains_iff_mem_names.mpr present)
  exact (second.keys name t' t'' found' found'').trans (first.keys name t t' found found')

/-- Injecting lookups changes neither the names of the tables nor the keys. -/
theorem sameKeys_inject (own : ∀ name t, tables.get? name = some t → OwnNames t.fields)
    (references : List Reference) : SameKeys tables (inject tables references).1 := by
  refine ⟨names_inject references, fun name t t' found found' => ?_⟩
  rw [get?_inject, found, Option.map_some] at found'
  cases found'
  exact isKeyAt_putAll (own name t found) _

theorem ownNames_inject (own : ∀ name t, tables.get? name = some t → OwnNames t.fields)
    (references : List Reference) :
    ∀ name t, (inject tables references).1.get? name = some t → OwnNames t.fields := by
  intro name t found
  rw [get?_inject] at found
  obtain ⟨before, stored, rfl⟩ := Option.map_eq_some_iff.mp found
  exact (own name before stored).putAll _

/-- Each reference is warned about as it would be before any reference was injected. -/
theorem warnings_inject (own : ∀ name t, tables'.get? name = some t → OwnNames t.fields)
    (same : SameKeys tables tables') (references : List Reference) :
    (inject tables' references).2 = references.flatMap fun r => (injectOne r tables).2 := by
  induction references generalizing tables' with
  | nil => rfl
  | cons r rest ih =>
      -- One reference is injected as a list of one.
      have own' := ownNames_inject own [r]
      have same' := same.trans (sameKeys_inject own [r])
      rw [List.flatMap_cons, ← same.warnings r]
      exact congrArg _ (ih own' same')

end

/-! ## A second injection -/

theorem inject_inject_tables {tables : OrderedMap Table}
    (own : ∀ name t, tables.get? name = some t → OwnNames t.fields) (references : List Reference) :
    (inject (inject tables references).1 references).1 = (inject tables references).1 := by
  refine OrderedMap.ext_get? (names_inject references) fun name => ?_
  rw [get?_inject, into_congr (names_inject references), get?_inject]
  cases found : tables.get? name with
  | none => rfl
  | some t =>
      rw [Option.map_some, Option.map_some, putAll_putAll (own name t found)]

/-- **Injecting twice.** Where fields are stored under their own names, a second injection of the
same references changes no table, no field and no order of fields, and gives the same warnings. -/
theorem inject_inject {tables : OrderedMap Table}
    (own : ∀ name t, tables.get? name = some t → OwnNames t.fields) (references : List Reference) :
    inject (inject tables references).1 references = inject tables references := by
  refine Prod.ext (inject_inject_tables own references) ?_
  rw [warnings_inject (ownNames_inject own references) (sameKeys_inject own references),
    warnings_inject own (SameKeys.refl tables)]

/-- The entangled references are injected twice. -/
theorem inject_inject_of_entangled :
    (∀ name t, entangled.1.get? name = some t → OwnNames t.fields) ∧
      inject (inject entangled.1 entangled.2).1 entangled.2 = inject entangled.1 entangled.2 :=
  ⟨ownNames_entangled, inject_inject ownNames_entangled entangled.2⟩

end ErdDeploy.Lookup
