import ErdDeploy.Proofs.Data.OrderedMap
import ErdDeploy.Schema.Lookup
import ErdDeploy.Schema.Relationship

/-!
What the injection of lookups does to tables and fields.

A reference acts on one table only, that of its many side, and only if it is
effective; which references are effective does not change on the way. So each table
is taken through the references into it by itself (`get?_inject`). Within a table a
reference acts on two fields by name, and leaves all others alone (`get?_put`).

A field that was declared is taken through the references into its table by itself,
too (`get?_putAll_of_get?`): a key stays as it is, and any other field becomes a
lookup as soon as one of the references bears its name or names it.
-/

namespace ErdDeploy.Lookup

/-- Put both fields of a reference. -/
def put (r : Reference) (fields : OrderedMap Field) : OrderedMap Field :=
  putColumn r (putNamed r fields)

/-- Put the fields of some references, one reference after the other. -/
def putAll (references : List Reference) (fields : OrderedMap Field) : OrderedMap Field :=
  references.foldl (fun fields r => put r fields) fields

/-- The effective references into a table. -/
def into (tables : OrderedMap Table) (name : String) (references : List Reference) :
    List Reference :=
  references.filter fun r => Relationship.isEffective tables r && r.toTable == name

theorem mem_into {tables : OrderedMap Table} {name : String} {references : List Reference}
    {r : Reference} : r ∈ into tables name references ↔
      r ∈ references ∧ Relationship.isEffective tables r = true ∧ r.toTable = name := by
  rw [into, List.mem_filter, Bool.and_eq_true, beq_iff_eq]

/-! ## Tables -/

section

variable {tables : OrderedMap Table} {name : String} {r : Reference}

/-- What is said of a reference that is not effective: that tables are unknown, if it has the
direction that takes effect. -/
def inertWarnings (tables : OrderedMap Table) (r : Reference) : List Diagnostic :=
  if r.isManyToOne then [unknownTables r (missingTables r tables)] else []

theorem inertWarnings_congr {tables' : OrderedMap Table} (same : tables'.names = tables.names)
    (r : Reference) : inertWarnings tables' r = inertWarnings tables r := by
  simp only [inertWarnings, missingTables, OrderedMap.contains_congr same]

/-- A reference that is not effective leaves the tables alone and is warned about if need be. -/
theorem injectOne_of_inert (inert : Relationship.isEffective tables r = false) :
    injectOne r tables = (tables, inertWarnings tables r) := by
  unfold injectOne inertWarnings
  cases manyToOne : r.isManyToOne with
  | false => rfl
  | true =>
      simp only [Bool.not_true, Bool.false_eq_true, if_false, if_true]
      split
      · next source target foundSource foundTarget =>
        simp [Relationship.isEffective, OrderedMap.contains, manyToOne, foundSource,
          foundTarget] at inert
      · rfl

/-- An effective reference puts its fields into the table of its many side, and is warned about
keys that it would have taken over. -/
theorem injectOne_of_effective (effective : Relationship.isEffective tables r = true) :
    ∃ table, tables.get? r.toTable = some table ∧
      injectOne r tables =
        (tables.insert r.toTable { table with fields := put r table.fields },
          (keyNames r table.fields).map (keyKept r)) := by
  simp only [Relationship.isEffective, Bool.and_eq_true, OrderedMap.contains_iff] at effective
  obtain ⟨⟨manyToOne, source, foundSource⟩, table, foundTarget⟩ := effective
  refine ⟨table, foundTarget, ?_⟩
  simp [injectOne, manyToOne, foundSource, foundTarget, put]

theorem names_injectOne : (injectOne r tables).1.names = tables.names := by
  cases effective : Relationship.isEffective tables r with
  | false => rw [injectOne_of_inert effective]
  | true =>
      obtain ⟨table, found, same⟩ := injectOne_of_effective effective
      rw [same, OrderedMap.names_insert, if_pos (OrderedMap.mem_names_of_get? found)]

theorem get?_injectOne : (injectOne r tables).1.get? name =
    (tables.get? name).map fun table =>
      { table with fields := putAll (into tables name [r]) table.fields } := by
  cases effective : Relationship.isEffective tables r with
  | false =>
      rw [injectOne_of_inert effective]
      simp [into, effective, putAll]
  | true =>
      obtain ⟨table, found, same⟩ := injectOne_of_effective effective
      rw [same, OrderedMap.get?_insert]
      split
      · next here =>
        subst here
        simp [into, effective, putAll, found]
      · next there => simp [into, effective, putAll, Ne.symm there]

/-- Which references are effective does not depend on the fields of the tables. -/
theorem isEffective_congr {tables' : OrderedMap Table} (same : tables'.names = tables.names) :
    Relationship.isEffective tables' = Relationship.isEffective tables := by
  funext r
  simp only [Relationship.isEffective, OrderedMap.contains_congr same]

theorem into_congr {tables' : OrderedMap Table} (same : tables'.names = tables.names)
    (references : List Reference) : into tables' name references = into tables name references := by
  rw [into, isEffective_congr same, into]

theorem names_inject (references : List Reference) :
    (inject tables references).1.names = tables.names := by
  induction references generalizing tables with
  | nil => rfl
  | cons r rest ih => rw [inject, ih, names_injectOne]

/-- Each table is taken through the effective references into it. -/
theorem get?_inject (references : List Reference) : (inject tables references).1.get? name =
    (tables.get? name).map fun table =>
      { table with fields := putAll (into tables name references) table.fields } := by
  induction references generalizing tables with
  | nil => simp [inject, into, putAll]
  | cons r rest ih =>
      have split : into tables name (r :: rest) =
          into tables name [r] ++ into tables name rest := by
        rw [into, ← List.singleton_append, List.filter_append, into, into]
      rw [inject, ih, get?_injectOne, Option.map_map, into_congr names_injectOne, split]
      simp only [putAll, List.foldl_append, Function.comp_def]

end

/-! ## Fields -/

/-- Every field is stored under its own name. -/
def OwnNames (fields : OrderedMap Field) : Prop :=
  ∀ name field, fields.get? name = some field → field.name = name

/-- What stands under the name of the lookup of a reference after it was put. -/
def named (r : Reference) : Option Field → Field
  | none => fresh r
  | some field =>
    if field.isPrimaryKey || field.lookupTable.isSome then field else takeOver field r

/-- What becomes of the field that a reference names itself. -/
def yielded (r : Reference) (field : Field) : Field :=
  if field.isLookup || field.isPrimaryKey then field else takeOver field r

/-- A field among the values is stored under its own name. -/
theorem OwnNames.get?_of_mem_values {fields : OrderedMap Field} {field : Field}
    (own : OwnNames fields) (member : field ∈ fields.values) :
    fields.get? field.name = some field := by
  obtain ⟨name, found⟩ := OrderedMap.mem_values_iff.mp member
  rw [own name field found, found]

section

variable {fields : OrderedMap Field} {r : Reference} {name : String}

theorem get?_putNamed : (putNamed r fields).get? name =
    if name = r.lookupName then some (named r (fields.get? name)) else fields.get? name := by
  unfold putNamed
  split
  · next missing =>
    rw [OrderedMap.get?_insert]
    split
    · next here => rw [here, missing, named]
    · rfl
  · next field found =>
    split
    · next kept =>
      split
      · next here => rw [here, found, named, if_pos kept]
      · rfl
    · next free =>
      rw [OrderedMap.get?_insert]
      split
      · next here => rw [here, found, named, if_neg free]
      · rfl

theorem named_name {found : Option Field} (own : ∀ field, found = some field →
    field.name = r.lookupName) : (named r found).name = r.lookupName := by
  cases found with
  | none => rfl
  | some field =>
      rw [named]
      split
      · exact own field rfl
      · exact own field rfl

theorem OwnNames.putNamed (own : OwnNames fields) : OwnNames (putNamed r fields) := by
  intro name field found
  rw [get?_putNamed] at found
  split at found
  · next here =>
    cases found
    rw [here]
    exact named_name fun field found => own _ field found
  · exact own name field found

theorem get?_putColumn (own : OwnNames fields) : (putColumn r fields).get? name =
    if name = r.toField ∧ name ≠ r.lookupName then (fields.get? name).map (yielded r)
    else fields.get? name := by
  unfold putColumn
  split
  · next missing =>
    split
    · next here => rw [here.1, missing, Option.map_none]
    · rfl
  · next field found =>
    have named := own r.toField field found
    split
    · next kept =>
      split
      · next here =>
        rw [Bool.or_eq_true, Bool.or_eq_true, decide_eq_true_iff, named] at kept
        have settled : (field.isLookup || field.isPrimaryKey) = true := by
          rw [Bool.or_eq_true]
          rcases kept with (same | lookup) | key
          · exact absurd (here.1.trans same) here.2
          · exact Or.inl lookup
          · exact Or.inr key
        rw [here.1, found, Option.map_some, yielded, if_pos settled]
      · rfl
    · next free =>
      rw [OrderedMap.get?_insert]
      simp only [Bool.or_eq_true, decide_eq_true_eq, named, not_or] at free
      by_cases here : name = r.toField
      · have other : name ≠ r.lookupName := by
          rw [here]
          exact free.1.1
        have open' : ¬ (field.isLookup || field.isPrimaryKey) = true := by
          rw [Bool.or_eq_true, not_or]
          exact ⟨free.1.2, free.2⟩
        rw [if_pos here, if_pos ⟨here, other⟩, here, found, Option.map_some, yielded,
          if_neg open']
      · rw [if_neg here, if_neg fun both => here both.1]

theorem yielded_name (field : Field) : (yielded r field).name = field.name := by
  unfold yielded
  split
  · rfl
  · rfl

theorem OwnNames.putColumn (own : OwnNames fields) : OwnNames (putColumn r fields) := by
  intro name field found
  rw [get?_putColumn own] at found
  split at found
  · obtain ⟨before, stored, rfl⟩ := Option.map_eq_some_iff.mp found
    rw [yielded_name, own name before stored]
  · exact own name field found

theorem OwnNames.put (own : OwnNames fields) : OwnNames (put r fields) :=
  own.putNamed.putColumn

theorem OwnNames.putAll (own : OwnNames fields) (references : List Reference) :
    OwnNames (putAll references fields) := by
  induction references generalizing fields with
  | nil => exact own
  | cons r rest ih => exact ih own.put

/-- A reference acts on the field named after its one side, and on the field that it names. -/
theorem get?_put (own : OwnNames fields) : (put r fields).get? name =
    if name = r.lookupName then some (named r (fields.get? name))
    else if name = r.toField then (fields.get? name).map (yielded r)
    else fields.get? name := by
  rw [put, get?_putColumn own.putNamed, get?_putNamed]
  by_cases here : name = r.lookupName
  · rw [if_neg fun both => both.2 here, if_pos here, if_pos here]
  · by_cases there : name = r.toField
    · rw [if_pos ⟨there, here⟩, if_neg here, if_neg here, if_pos there]
    · rw [if_neg fun both => there both.1, if_neg here, if_neg here, if_neg there]

end

/-- References leave the names of the fields as they are, but for new ones at the end. -/
theorem exists_names_put (r : Reference) (fields : OrderedMap Field) :
    ∃ extra, (put r fields).names = fields.names ++ extra := by
  have named : ∃ extra, (putNamed r fields).names = fields.names ++ extra := by
    unfold putNamed
    split
    · exact OrderedMap.exists_names_insert _ _ _
    · split
      · exact ⟨[], (List.append_nil _).symm⟩
      · exact OrderedMap.exists_names_insert _ _ _
  have column : ∀ fields, ∃ extra, (putColumn r fields).names = fields.names ++ extra := by
    intro fields
    unfold putColumn
    split
    · exact ⟨[], (List.append_nil _).symm⟩
    · split
      · exact ⟨[], (List.append_nil _).symm⟩
      · exact OrderedMap.exists_names_insert _ _ _
  obtain ⟨first, named⟩ := named
  obtain ⟨second, column⟩ := column (putNamed r fields)
  exact ⟨first ++ second, by rw [put, column, named, List.append_assoc]⟩

theorem exists_names_putAll (references : List Reference) (fields : OrderedMap Field) :
    ∃ extra, (putAll references fields).names = fields.names ++ extra := by
  induction references generalizing fields with
  | nil => exact ⟨[], (List.append_nil _).symm⟩
  | cons r rest ih =>
      obtain ⟨first, here⟩ := exists_names_put r fields
      obtain ⟨second, later⟩ := ih (put r fields)
      exact ⟨first ++ second, later.trans (by rw [here, List.append_assoc])⟩

/-- What holds of the field under a name, of the lookups that take over no field, and of what is
taken over, holds of the field under this name after the references were put. -/
theorem forall_get?_putAll {P : Field → Prop} {fields : OrderedMap Field}
    (own : OwnNames fields) (references : List Reference) (fresh : ∀ r ∈ references, P (fresh r))
    (takenOver : ∀ r ∈ references, ∀ field, P field → P (takeOver field r)) (name : String)
    (before : ∀ field, fields.get? name = some field → P field) :
    ∀ field, (putAll references fields).get? name = some field → P field := by
  induction references generalizing fields with
  | nil => exact before
  | cons r rest ih =>
      refine ih own.put (fun other member => fresh other (List.mem_cons_of_mem _ member))
        (fun other member => takenOver other (List.mem_cons_of_mem _ member)) ?_
      have taken := takenOver r List.mem_cons_self
      intro field found
      rw [get?_put own] at found
      split at found
      · cases stored : fields.get? name with
        | none =>
            rw [stored] at found
            cases found
            exact fresh r List.mem_cons_self
        | some earlier =>
            rw [stored, named] at found
            cases found
            split
            · exact before earlier stored
            · exact taken earlier (before earlier stored)
      · split at found
        · obtain ⟨earlier, stored, rfl⟩ := Option.map_eq_some_iff.mp found
          rw [yielded]
          split
          · exact before earlier stored
          · exact taken earlier (before earlier stored)
        · exact before field found

/-! ## Fields that were declared -/

/-- A reference claims a name if its lookup has this name, or if it names it itself. -/
def Claims (r : Reference) (name : String) : Prop :=
  name = r.lookupName ∨ name = r.toField

/-- What becomes of a field when a reference is put. -/
def through (r : Reference) (field : Field) : Field :=
  if field.name = r.lookupName then named r (some field)
  else if field.name = r.toField then yielded r field
  else field

/-- What becomes of a field when some references are put. -/
def throughAll (references : List Reference) (field : Field) : Field :=
  references.foldl (fun field r => through r field) field

section

variable {r : Reference} {field : Field}

/-- A reference leaves a field alone or takes it over. -/
theorem through_cases (r : Reference) (field : Field) :
    through r field = field ∨
      field.isPrimaryKey = false ∧ Claims r field.name ∧ through r field = takeOver field r := by
  unfold through
  split
  · next here =>
    rw [named]
    split
    · exact Or.inl rfl
    · next free =>
      rw [Bool.or_eq_true, not_or, Bool.not_eq_true] at free
      exact Or.inr ⟨free.1, Or.inl here, rfl⟩
  · split
    · next there =>
      unfold yielded
      split
      · exact Or.inl rfl
      · next free =>
        rw [Bool.or_eq_true, not_or, Bool.not_eq_true, Bool.not_eq_true] at free
        exact Or.inr ⟨free.2, Or.inr there, rfl⟩
    · exact Or.inl rfl

theorem through_name (r : Reference) (field : Field) : (through r field).name = field.name := by
  rcases through_cases r field with same | ⟨-, -, taken⟩
  · rw [same]
  · rw [taken]
    rfl

theorem through_isPrimaryKey (r : Reference) (field : Field) :
    (through r field).isPrimaryKey = field.isPrimaryKey := by
  rcases through_cases r field with same | ⟨free, -, taken⟩
  · rw [same]
  · rw [taken, free]
    rfl

theorem through_isRequired (r : Reference) (field : Field) :
    (through r field).isRequired = field.isRequired := by
  rcases through_cases r field with same | ⟨-, -, taken⟩
  · rw [same]
  · rw [taken]
    rfl

theorem isLookup_through (r : Reference) (lookup : field.isLookup = true) :
    (through r field).isLookup = true := by
  rcases through_cases r field with same | ⟨-, -, taken⟩
  · rw [same, lookup]
  · rw [taken]
    rfl

theorem isLookup_of_lookupTable (known : field.lookupTable.isSome = true) :
    field.isLookup = true := by
  unfold Field.lookupTable at known
  unfold Field.isLookup
  split at known
  · rfl
  · cases known

theorem isLookup_eq_false_of_isPrimaryKey (key : field.isPrimaryKey = true) :
    field.isLookup = false := by
  rw [Field.isPrimaryKey, beq_iff_eq] at key
  rw [Field.isLookup, key]

/-- A lookup that points somewhere stays as it is. -/
theorem through_of_lookupTable (points : field.lookupTable.isSome = true) :
    through r field = field := by
  have lookup := isLookup_of_lookupTable points
  unfold through
  split
  · rw [named, points, Bool.or_true, if_pos rfl]
  · split
    · rw [yielded, lookup, Bool.true_or, if_pos rfl]
    · rfl

/-- A reference turns whatever it claims into a lookup, unless it is a key. -/
theorem isLookup_through_of_claims (free : field.isPrimaryKey = false)
    (claims : Claims r field.name) : (through r field).isLookup = true := by
  unfold through
  split
  · rw [named]
    split
    · next kept =>
      rw [free, Bool.false_or] at kept
      exact isLookup_of_lookupTable kept
    · rfl
  · next other =>
    have there := claims.resolve_left other
    rw [if_pos there, yielded]
    split
    · next kept =>
      rw [free, Bool.or_false] at kept
      exact kept
    · rfl

variable (references : List Reference)

theorem throughAll_isPrimaryKey (field : Field) :
    (throughAll references field).isPrimaryKey = field.isPrimaryKey := by
  induction references generalizing field with
  | nil => rfl
  | cons r rest ih => exact (ih _).trans (through_isPrimaryKey r field)

theorem throughAll_isRequired (field : Field) :
    (throughAll references field).isRequired = field.isRequired := by
  induction references generalizing field with
  | nil => rfl
  | cons r rest ih => exact (ih _).trans (through_isRequired r field)

theorem isLookup_throughAll (lookup : field.isLookup = true) :
    (throughAll references field).isLookup = true := by
  induction references generalizing field with
  | nil => exact lookup
  | cons r rest ih => exact ih (isLookup_through r lookup)

theorem throughAll_of_lookupTable (points : field.lookupTable.isSome = true) :
    throughAll references field = field := by
  induction references with
  | nil => rfl
  | cons r rest ih => rwa [throughAll, List.foldl_cons, through_of_lookupTable points]

/-- Only what is claimed, and is no key, changes. -/
theorem throughAll_eq_self
    (kept : field.isPrimaryKey = true ∨ ∀ r ∈ references, ¬ Claims r field.name) :
    throughAll references field = field := by
  induction references with
  | nil => rfl
  | cons r rest ih =>
      have same : through r field = field := by
        rcases through_cases r field with same | ⟨free, claims, -⟩
        · exact same
        · rcases kept with key | unclaimed
          · rw [free] at key
            cases key
          · exact absurd claims (unclaimed r List.mem_cons_self)
      rw [throughAll, List.foldl_cons, same]
      exact ih (kept.imp_right fun unclaimed other member =>
        unclaimed other (List.mem_cons_of_mem _ member))

/-- What is claimed by one of the references, and is no key, becomes a lookup. -/
theorem isLookup_throughAll_of_claims (free : field.isPrimaryKey = false)
    (claims : ∃ r ∈ references, Claims r field.name) :
    (throughAll references field).isLookup = true := by
  induction references generalizing field with
  | nil =>
      obtain ⟨r, member, -⟩ := claims
      cases member
  | cons r rest ih =>
      obtain ⟨other, member, claims⟩ := claims
      rcases List.mem_cons.mp member with rfl | later
      · exact isLookup_throughAll rest (isLookup_through_of_claims free claims)
      · refine ih ?_ ⟨other, later, ?_⟩
        · rw [through_isPrimaryKey, free]
        · rwa [through_name]

end

theorem get?_put_of_get? {fields : OrderedMap Field} {r : Reference} {name : String}
    {field : Field} (own : OwnNames fields) (found : fields.get? name = some field) :
    (put r fields).get? name = some (through r field) := by
  rw [get?_put own, found, through, own name field found]
  split
  · rfl
  · split
    · rfl
    · rfl

/-- A field is taken through the references by itself. -/
theorem get?_putAll_of_get? {fields : OrderedMap Field} {name : String} {field : Field}
    (own : OwnNames fields) (references : List Reference)
    (found : fields.get? name = some field) :
    (putAll references fields).get? name = some (throughAll references field) := by
  induction references generalizing fields field with
  | nil => exact found
  | cons r rest ih => exact ih own.put (get?_put_of_get? own found)

/-- Nothing becomes required on the way: a name under which no required field is stored has none
after the references were put, since a lookup that takes over no field is not required. -/
theorem isRequired_of_get?_putAll {fields : OrderedMap Field} {name : String}
    (own : OwnNames fields) (references : List Reference)
    (before : ∀ field, fields.get? name = some field → field.isRequired = false) :
    ∀ field, (putAll references fields).get? name = some field → field.isRequired = false :=
  forall_get?_putAll own references (fun _ _ => rfl) (fun _ _ _ free => free) name before

end ErdDeploy.Lookup
