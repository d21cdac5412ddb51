import ErdDeploy.Proofs.Schema.Injection

/-!
Where lookups point.

A reference takes the field that has the name of its lookup, and also the field that it names
itself, if that was declared as anything but a lookup (`Lookup.takes`). The first reference into a
table that takes a field makes the field point where the reference points, and no later one
changes it any more: a lookup that points somewhere stays as it is. Until then the field is
as it was declared, so which references take it can be told from the declared table alone.

So behind the injection every effective reference has a field with the name of its lookup, and
unless this is a key, it points where the first reference that takes it points
(`Lookup.lookups_point`). That need not be the reference itself: another one may name this very
field, or come from a table whose name differs in case only (`Lookup.not_pointsBack`).
-/

namespace ErdDeploy.Lookup

/-- Whether a reference takes the field of a name, given what was declared under it. A lookup that
was declared as such is left to the references whose lookup has its name. -/
def takes (name : String) (declared : Option Field) (r : Reference) : Bool :=
  r.lookupName == name || (r.toField == name && declared.any fun f => !f.isLookup)

/-- The first effective reference into a table that takes the field of a name. -/
def taker? (tables : OrderedMap Table) (references : List Reference) (table : String)
    (declared : Option Field) (name : String) : Option Reference :=
  (into tables table references).find? (takes name declared)

/-- A field is a lookup that points where a reference points. -/
structure PointsWith (r : Reference) (f : Field) : Prop where
  isLookup : f.isLookup = true
  lookupTable : f.lookupTable = some r.fromTable
  lookupField : f.lookupField = some r.fromField

theorem pointsWith_fresh (r : Reference) : PointsWith r (fresh r) :=
  ⟨rfl, rfl, rfl⟩

theorem pointsWith_takeOver (r : Reference) (f : Field) : PointsWith r (takeOver f r) :=
  ⟨rfl, rfl, rfl⟩

/-! ## One field -/

section

variable {fields : OrderedMap Field} {r : Reference} {name : String} {f : Field}

/-- A reference that does not take a field leaves it alone. -/
theorem get?_put_of_not_takes (own : OwnNames fields)
    (passes : takes name (fields.get? name) r = false) :
    (put r fields).get? name = fields.get? name := by
  rw [takes, Bool.or_eq_false_iff, beq_eq_false_iff_ne] at passes
  rcases passes with ⟨other, passes⟩
  rw [get?_put own, if_neg other.symm]
  split
  · next here =>
    rw [here, BEq.rfl, Bool.true_and] at passes
    rw [here]
    cases stored : fields.get? r.toField with
    | none => rfl
    | some f =>
        rw [stored, Option.any_some, Bool.not_eq_false'] at passes
        rw [Option.map_some, yielded, passes, Bool.true_or, if_pos rfl]
  · rfl

/-- A reference that takes a field makes it point where the reference points, if it is no key and
points nowhere. -/
theorem get?_put_of_takes (own : OwnNames fields)
    (free : ∀ f, fields.get? name = some f → f.isPrimaryKey = false ∧ f.lookupTable = none)
    (taken : takes name (fields.get? name) r = true) :
    ∃ f, (put r fields).get? name = some f ∧ PointsWith r f := by
  rw [get?_put own]
  by_cases here : name = r.lookupName
  · rw [if_pos here]
    refine ⟨_, rfl, ?_⟩
    cases stored : fields.get? name with
    | none => exact pointsWith_fresh r
    | some f =>
        rcases free f stored with ⟨noKey, nowhere⟩
        rw [named, noKey, nowhere, Option.isSome_none, Bool.or_false, if_neg Bool.false_ne_true]
        exact pointsWith_takeOver r f
  · rw [takes, Bool.or_eq_true, beq_iff_eq] at taken
    have column := taken.resolve_left fun same => here same.symm
    rw [Bool.and_eq_true, beq_iff_eq, Option.any_eq_true] at column
    rcases column with ⟨there, f, stored, noLookup⟩
    rw [Bool.not_eq_true'] at noLookup
    rw [if_neg here, if_pos there.symm, stored, Option.map_some]
    refine ⟨_, rfl, ?_⟩
    rw [yielded, noLookup, (free f stored).1, Bool.or_false, if_neg Bool.false_ne_true]
    exact pointsWith_takeOver r f

/-- A field points where the first reference that takes it points. -/
theorem get?_putAll_of_first (own : OwnNames fields) {references : List Reference}
    (free : ∀ f, fields.get? name = some f → f.isPrimaryKey = false ∧ f.lookupTable = none)
    {first : Reference}
    (found : references.find? (takes name (fields.get? name)) = some first) :
    ∃ f, (putAll references fields).get? name = some f ∧ PointsWith first f := by
  induction references generalizing fields with
  | nil => cases found
  | cons r rest ih =>
      rw [List.find?_cons] at found
      cases taken : takes name (fields.get? name) r with
      | true =>
          rw [taken] at found
          cases found
          rcases get?_put_of_takes own free taken with ⟨f, stored, points⟩
          refine ⟨f, ?_, points⟩
          have settled : f.lookupTable.isSome = true := by
            rw [points.lookupTable, Option.isSome_some]
          rw [← throughAll_of_lookupTable rest settled]
          exact get?_putAll_of_get? own.put rest stored
      | false =>
          rw [taken] at found
          have same := get?_put_of_not_takes own taken
          refine ih own.put ?_ ?_
          · rw [same]
            exact free
          · rw [same]
            exact found

end

/-! ## All references -/

/-- Tables as they are before lookups are injected: fields are stored under their own names, and
none points anywhere. -/
def Untargeted (tables : OrderedMap Table) : Prop :=
  ∀ name t, tables.get? name = some t →
    OwnNames t.fields ∧ ∀ field f, t.fields.get? field = some f → f.lookupTable = none

/-- What is stored can be checked entry by entry. -/
theorem untargeted_of_entries {tables : OrderedMap Table}
    (checked : ∀ t ∈ tables.values, ∀ entry ∈ t.fields.entries,
      entry.2.name = entry.1 ∧ entry.2.lookupTable = none) : Untargeted tables := by
  intro name t found
  have entries := checked t (OrderedMap.mem_values_iff.mpr ⟨name, found⟩)
  constructor
  · intro field f stored
    exact (entries _ (OrderedMap.get?_eq_some_iff.mp stored)).1
  · intro field f stored
    exact (entries _ (OrderedMap.get?_eq_some_iff.mp stored)).2

/-- A reference into a table that has a field with the name of its lookup. -/
def crossed : Reference :=
  ⟨"X", "id", .manyToOne, "I", "b", 9⟩

/-- Tables and references, of which another one names this field. -/
def crossing : OrderedMap Table × List Reference :=
  (.ofList [("C", ⟨"C", "new_c", .empty, false, 1⟩), ("X", ⟨"X", "new_x", .empty, false, 3⟩),
      ("I", ⟨"I", "new_i", .ofList [("xid", .plain "xid" "GUID" .scalar false 6)], false, 5⟩)],
    [⟨"C", "id", .manyToOne, "I", "xid", 8⟩, crossed])

theorem untargeted_crossing : Untargeted crossing.1 := by
  apply untargeted_of_entries
  decide +kernel

/-- The field with the name of a lookup does not always point back. -/
theorem not_pointsBack :
    ¬ ∀ (tables : OrderedMap Table) (references : List Reference), Untargeted tables →
      ∀ r ∈ references, Relationship.isEffective tables r = true →
        ∃ t f, (inject tables references).1.get? r.toTable = some t ∧
          t.fields.get? r.lookupName = some f ∧
          (f.isPrimaryKey = true ∨ f.isLookup = true ∧ f.lookupTable = some r.fromTable) := by
  intro pointsBack
  have away : ∀ t ∈ (inject crossing.1 crossing.2).1.get? "I", ∀ f ∈ t.fields.get? "xid",
      f.isPrimaryKey = false ∧ f.lookupTable = some "C" := by
    decide +kernel
  have lookupName : crossed.lookupName = "xid" := by decide +kernel
  rcases pointsBack crossing.1 crossing.2 untargeted_crossing crossed (by decide)
      (by decide +kernel) with ⟨t, f, found, stored, key | ⟨-, back⟩⟩
  · rw [lookupName] at stored
    rw [(away t found f stored).1] at key
    cases key
  · rw [lookupName] at stored
    rw [(away t found f stored).2] at back
    revert back
    decide

/-- **Targets of lookups.** Every effective reference has a field with the name of its lookup in
the table of its many side. The field is the key that was declared under this name, or a lookup
that points where the first of the references into the table points that take it. -/
theorem lookups_point {tables : OrderedMap Table} {references : List Reference}
    (untargeted : Untargeted tables) {r : Reference} (among : r ∈ references)
    (effective : Relationship.isEffective tables r = true) :
    ∃ before after f, tables.get? r.toTable = some before ∧
      (inject tables references).1.get? r.toTable = some after ∧
      after.fields.get? r.lookupName = some f ∧ f.name = r.lookupName ∧
      (f.isPrimaryKey = true ∧ before.fields.get? r.lookupName = some f ∨
        ∃ first, taker? tables references r.toTable (before.fields.get? r.lookupName)
            r.lookupName = some first ∧ PointsWith first f) := by
  have known := effective
  simp only [Relationship.isEffective, Bool.and_eq_true, OrderedMap.contains_iff] at known
  rcases known with ⟨-, before, declared⟩
  rcases untargeted r.toTable before declared with ⟨own, nowhere⟩
  have injected : (inject tables references).1.get? r.toTable = some { before with
      fields := putAll (into tables r.toTable references) before.fields } := by
    rw [get?_inject, declared, Option.map_some]
  by_cases keyed : ∃ f, before.fields.get? r.lookupName = some f ∧ f.isPrimaryKey = true
  · rcases keyed with ⟨f, stored, key⟩
    have kept := get?_putAll_of_get? own (into tables r.toTable references) stored
    rw [throughAll_eq_self _ (Or.inl key)] at kept
    exact ⟨before, _, f, declared, injected, kept, own _ f stored, Or.inl ⟨key, stored⟩⟩
  · have free : ∀ f, before.fields.get? r.lookupName = some f →
        f.isPrimaryKey = false ∧ f.lookupTable = none := by
      intro f stored
      refine ⟨?_, nowhere _ f stored⟩
      rw [← Bool.not_eq_true]
      exact fun key => keyed ⟨f, stored, key⟩
    -- The reference takes the field itself, so there is a first one that does.
    have taken : (taker? tables references r.toTable (before.fields.get? r.lookupName)
        r.lookupName).isSome = true := by
      rw [taker?, List.find?_isSome]
      refine ⟨r, mem_into.mpr ⟨among, effective, rfl⟩, ?_⟩
      rw [takes, BEq.rfl, Bool.true_or]
    rcases Option.isSome_iff_exists.mp taken with ⟨first, found⟩
    rcases get?_putAll_of_first own free found with ⟨f, stored, points⟩
    exact ⟨before, _, f, declared, injected, stored, own.putAll _ _ f stored,
      Or.inr ⟨first, found, points⟩⟩

/-- The field with the name of this lookup points where the other reference points. -/
theorem lookups_point_of_crossed :
    Untargeted crossing.1 ∧ crossed ∈ crossing.2 ∧
      Relationship.isEffective crossing.1 crossed = true ∧
      ∃ before after f, crossing.1.get? crossed.toTable = some before ∧
        (inject crossing.1 crossing.2).1.get? crossed.toTable = some after ∧
        after.fields.get? crossed.lookupName = some f ∧ f.name = crossed.lookupName ∧
        (f.isPrimaryKey = true ∧ before.fields.get? crossed.lookupName = some f ∨
          ∃ first, taker? crossing.1 crossing.2 crossed.toTable
              (before.fields.get? crossed.lookupName) crossed.lookupName = some first ∧
            PointsWith first f) := by
  have among : crossed ∈ crossing.2 := by decide
  have effective : Relationship.isEffective crossing.1 crossed = true := by decide +kernel
  exact ⟨untargeted_crossing, among, effective,
    lookups_point untargeted_crossing among effective⟩

end ErdDeploy.Lookup
