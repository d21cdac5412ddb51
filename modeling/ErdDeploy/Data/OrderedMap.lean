/-!
Maps from names to values that remember the order in which the names came.

Writing a name that is already there keeps its place and replaces its value, so the order is
that of the first write and the value that of the last. The distinctness of the names is part
of the type.
-/

namespace ErdDeploy

/-- Write a name into a list of entries: in place if the name is there, at the end if not. -/
def putEntry {α : Type u} (name : String) (value : α) : List (String × α) → List (String × α)
  | [] => [(name, value)]
  | entry :: rest =>
    if entry.1 = name then (name, value) :: rest else entry :: putEntry name value rest

/-- Writing a name adds it to the names at the end, or leaves the names as they are. -/
theorem map_fst_putEntry {α : Type u} (name : String) (value : α)
    (entries : List (String × α)) :
    (putEntry name value entries).map Prod.fst =
      if name ∈ entries.map Prod.fst then entries.map Prod.fst
      else entries.map Prod.fst ++ [name] := by
  induction entries with
  | nil => simp [putEntry]
  | cons entry rest ih =>
    by_cases here : entry.1 = name
    · simp [putEntry, here]
    · have there : ¬ name = entry.1 := fun same => here same.symm
      simp only [putEntry, here, if_false, List.map_cons, ih, List.mem_cons, there, false_or]
      split <;> simp

/-- Writing a name keeps the names distinct. -/
theorem nodup_putEntry {α : Type u} (name : String) (value : α)
    {entries : List (String × α)} (distinct : (entries.map Prod.fst).Nodup) :
    ((putEntry name value entries).map Prod.fst).Nodup := by
  rw [map_fst_putEntry]
  split
  · exact distinct
  · next absent =>
    exact List.nodup_append.2 ⟨distinct, by simp, by
      intro left leftIn right rightIn
      simp only [List.mem_singleton] at rightIn
      rintro rfl
      exact absent (rightIn ▸ leftIn)⟩

/-- A map from names to values in the order of the first write. -/
structure OrderedMap (α : Type u) where
  entries : List (String × α)
  distinct : (entries.map Prod.fst).Nodup

namespace OrderedMap

variable {α : Type u}

/-- The map without names. -/
def empty : OrderedMap α :=
  ⟨[], List.nodup_nil⟩

instance : Inhabited (OrderedMap α) :=
  ⟨empty⟩

/-- Two maps are equal exactly when their entries are. -/
@[ext] theorem ext {left right : OrderedMap α} (same : left.entries = right.entries) :
    left = right := by
  cases left
  cases right
  cases same
  rfl

instance [DecidableEq α] : DecidableEq (OrderedMap α) := fun left right =>
  decidable_of_iff (left.entries = right.entries) ⟨OrderedMap.ext, congrArg _⟩

/-- Write a name. -/
def insert (map : OrderedMap α) (name : String) (value : α) : OrderedMap α :=
  ⟨putEntry name value map.entries, nodup_putEntry name value map.distinct⟩

/-- The value of a name. -/
def get? (map : OrderedMap α) (name : String) : Option α :=
  map.entries.lookup name

/-- Whether a name is there. -/
def contains (map : OrderedMap α) (name : String) : Bool :=
  (map.get? name).isSome

/-- The names in order. -/
def names (map : OrderedMap α) : List String :=
  map.entries.map Prod.fst

/-- The values in the order of their names. -/
def values (map : OrderedMap α) : List α :=
  map.entries.map Prod.snd

/-- The number of names. -/
def size (map : OrderedMap α) : Nat :=
  map.entries.length

/-- Drop a name. -/
def erase (map : OrderedMap α) (name : String) : OrderedMap α :=
  ⟨map.entries.filter fun entry => entry.1 != name,
    (List.filter_sublist.map Prod.fst).nodup map.distinct⟩

/-- Write every entry of a list in turn. -/
def insertAll (map : OrderedMap α) (entries : List (String × α)) : OrderedMap α :=
  entries.foldl (fun written entry => written.insert entry.1 entry.2) map

/-- The map written by a list of entries. -/
def ofList (entries : List (String × α)) : OrderedMap α :=
  empty.insertAll entries

/-- The names after a write. -/
theorem names_insert (map : OrderedMap α) (name : String) (value : α) :
    (map.insert name value).names =
      if name ∈ map.names then map.names else map.names ++ [name] :=
  map_fst_putEntry name value map.entries

/-- A name that was written has the value that was written. -/
@[simp] theorem get?_insert_self (map : OrderedMap α) (name : String) (value : α) :
    (map.insert name value).get? name = some value := by
  obtain ⟨entries, distinct⟩ := map
  simp only [insert, get?]
  clear distinct
  induction entries with
  | nil => simp [putEntry]
  | cons entry rest ih =>
    obtain ⟨key, stored⟩ := entry
    by_cases here : key = name
    · simp [putEntry, here]
    · have there : (name == key) = false := by simpa using fun same => here same.symm
      simp [putEntry, here, List.lookup_cons, there, ih]

/-- Any other name keeps its value. -/
theorem get?_insert_of_ne (map : OrderedMap α) {name other : String} (value : α)
    (differ : other ≠ name) : (map.insert name value).get? other = map.get? other := by
  obtain ⟨entries, distinct⟩ := map
  simp only [insert, get?]
  clear distinct
  have miss : (other == name) = false := by simpa using differ
  induction entries with
  | nil => simp [putEntry, List.lookup_cons, miss]
  | cons entry rest ih =>
    obtain ⟨key, stored⟩ := entry
    by_cases here : key = name
    · subst here
      simp [putEntry, List.lookup_cons, miss]
    · simp only [putEntry, here, if_false, List.lookup_cons, ih]

end OrderedMap

end ErdDeploy
