import ErdDeploy.Data.OrderedMap
import Mathlib.Data.List.Basic

/-!
Reading ordered maps.

The names of a map are distinct, so a lookup by name and membership of an entry
say the same (`get?_eq_some_iff`), and everything else a map can be asked comes
down to that. A map written by a list of entries holds exactly the names of the
list (`mem_names_ofList`), and writing the entries of a map into the empty map
gives the map back (`ofList_entries`).
-/

namespace ErdDeploy

/-- A lookup by name fails exactly if no entry has the name. -/
theorem lookup_eq_none_iff {α : Type u} {entries : List (String × α)} {name : String} :
    entries.lookup name = none ↔ name ∉ entries.map Prod.fst := by
  rw [List.lookup_eq_none_iff, List.mem_map]
  constructor
  · rintro absent ⟨entry, member, rfl⟩
    simpa using absent entry member
  · intro absent entry member
    have differ : name ≠ entry.1 := fun same => absent ⟨entry, member, same.symm⟩
    simpa using differ

namespace OrderedMap

variable {α : Type u} {map : OrderedMap α} {name other : String} {value : α}

/-! ## Lookups -/

/-- A lookup succeeds exactly with the value of an entry. -/
theorem get?_eq_some_iff : map.get? name = some value ↔ (name, value) ∈ map.entries := by
  obtain ⟨entries, distinct⟩ := map
  simp only [get?]
  induction entries with
  | nil => simp
  | cons entry rest ih =>
    obtain ⟨key, stored⟩ := entry
    rw [List.map_cons, List.nodup_cons] at distinct
    rw [List.lookup_cons, List.mem_cons]
    by_cases here : name = key
    · subst here
      have absent : (name, value) ∉ rest := fun member =>
        distinct.1 (List.mem_map.mpr ⟨_, member, rfl⟩)
      simp [absent, eq_comm]
    · have miss : (name == key) = false := by simpa using here
      simp [miss, here, ih distinct.2]

/-- A lookup fails exactly for a name that is not there. -/
theorem get?_eq_none_iff : map.get? name = none ↔ name ∉ map.names :=
  lookup_eq_none_iff

theorem contains_iff : map.contains name = true ↔ ∃ value, map.get? name = some value := by
  rw [contains, Option.isSome_iff_exists]

theorem contains_iff_mem_names : map.contains name = true ↔ name ∈ map.names := by
  rw [contains, Option.isSome_iff_ne_none, ne_eq, get?_eq_none_iff, Decidable.not_not]

theorem contains_congr {β : Type v} {map' : OrderedMap β} (same : map'.names = map.names) :
    map'.contains = map.contains := by
  funext name
  rw [Bool.eq_iff_iff, contains_iff_mem_names, contains_iff_mem_names, same]

theorem mem_names_of_get? (found : map.get? name = some value) : name ∈ map.names :=
  contains_iff_mem_names.mp (contains_iff.mpr ⟨value, found⟩)

/-- The values of a map are what its lookups find. -/
theorem mem_values_iff : value ∈ map.values ↔ ∃ name, map.get? name = some value := by
  simp only [values, List.mem_map, get?_eq_some_iff]
  constructor
  · rintro ⟨entry, member, rfl⟩
    exact ⟨entry.1, member⟩
  · rintro ⟨name, member⟩
    exact ⟨_, member, rfl⟩

/-- The entries of a map are its names in order, each with what a lookup finds. -/
theorem entries_eq (map : OrderedMap α) : map.entries =
    map.names.filterMap fun name => (map.get? name).map fun value => (name, value) := by
  rw [names, List.filterMap_map]
  conv_lhs => rw [← List.filterMap_some (l := map.entries)]
  refine List.filterMap_congr fun entry member => ?_
  rw [Function.comp, get?_eq_some_iff.mpr member, Option.map_some]

/-- Maps with the same names in the same order that find the same are the same. -/
theorem ext_get? {left right : OrderedMap α} (names : left.names = right.names)
    (finds : ∀ name, left.get? name = right.get? name) : left = right := by
  refine OrderedMap.ext ?_
  rw [entries_eq left, entries_eq right, names]
  simp only [finds]

theorem mem_names_insert : other ∈ (map.insert name value).names ↔
    other = name ∨ other ∈ map.names := by
  rw [names_insert]
  split
  · next present =>
    constructor
    · exact Or.inr
    · rintro (rfl | member)
      · exact present
      · exact member
  · rw [List.mem_append, List.mem_singleton, or_comm]

/-- A write leaves the names as they are, but for a new one at the end. -/
theorem exists_names_insert (map : OrderedMap α) (name : String) (value : α) :
    ∃ extra, (map.insert name value).names = map.names ++ extra := by
  rw [names_insert]
  split
  · exact ⟨[], (List.append_nil _).symm⟩
  · exact ⟨[name], rfl⟩

/-- Any name has what was written last under it. -/
theorem get?_insert : (map.insert name value).get? other =
    if other = name then some value else map.get? other := by
  split
  · next same => rw [same, get?_insert_self]
  · next differ => exact get?_insert_of_ne map value differ

/-! ## Writing lists of entries -/

theorem insertAll_nil (map : OrderedMap α) : map.insertAll [] = map :=
  rfl

theorem insertAll_cons (map : OrderedMap α) (entry : String × α) (rest : List (String × α)) :
    map.insertAll (entry :: rest) = (map.insert entry.1 entry.2).insertAll rest :=
  rfl

/-- A map into which a list was written holds its own names and those of the list. -/
theorem mem_names_insertAll (entries : List (String × α)) :
    name ∈ (map.insertAll entries).names ↔
      name ∈ map.names ∨ name ∈ entries.map Prod.fst := by
  induction entries generalizing map with
  | nil => simp [insertAll_nil]
  | cons entry rest ih =>
    rw [insertAll_cons, ih, mem_names_insert, List.map_cons, List.mem_cons]
    constructor
    · rintro ((here | before) | later)
      · exact Or.inr (Or.inl here)
      · exact Or.inl before
      · exact Or.inr (Or.inr later)
    · rintro (before | here | later)
      · exact Or.inl (Or.inr before)
      · exact Or.inl (Or.inl here)
      · exact Or.inr later

theorem mem_names_ofList {entries : List (String × α)} :
    name ∈ (ofList entries).names ↔ name ∈ entries.map Prod.fst := by
  rw [ofList, mem_names_insertAll]
  simp [empty, names]

/-- Every value of a map was there before or was written under its name. -/
theorem get?_insertAll_cases {entries : List (String × α)}
    (found : (map.insertAll entries).get? name = some value) :
    map.get? name = some value ∨ (name, value) ∈ entries := by
  induction entries generalizing map with
  | nil => exact Or.inl found
  | cons entry rest ih =>
    rw [insertAll_cons] at found
    rcases ih found with before | later
    · rw [get?_insert] at before
      split at before
      · next same =>
        cases before
        exact Or.inr (by rw [same]; exact List.mem_cons_self)
      · exact Or.inl before
    · exact Or.inr (List.mem_cons_of_mem _ later)

theorem mem_of_get?_ofList {entries : List (String × α)}
    (found : (ofList entries).get? name = some value) : (name, value) ∈ entries := by
  rcases get?_insertAll_cases found with before | written
  · simp [empty, get?] at before
  · exact written

/-- The last entry of a name has the word, and what was there before only without one. -/
theorem get?_insertAll (entries : List (String × α)) :
    (map.insertAll entries).get? name = ((ofList entries).get? name).or (map.get? name) := by
  induction entries generalizing map with
  | nil => simp [insertAll_nil, ofList, empty, get?]
  | cons entry rest ih =>
      have first : (ofList (entry :: rest)).get? name =
          ((ofList rest).get? name).or ((empty.insert entry.1 entry.2).get? name) := by
        rw [ofList, insertAll_cons, ih]
      rw [insertAll_cons, ih, first, Option.or_assoc, get?_insert, get?_insert]
      split
      · rfl
      · simp [empty, get?]

theorem get?_ofList_append (entries later : List (String × α)) :
    (ofList (entries ++ later)).get? name =
      ((ofList later).get? name).or ((ofList entries).get? name) := by
  rw [ofList, insertAll, List.foldl_append]
  exact get?_insertAll later

/-! ## Names that come new -/

theorem putEntry_of_not_mem {entries : List (String × α)}
    (absent : name ∉ entries.map Prod.fst) :
    putEntry name value entries = entries ++ [(name, value)] := by
  induction entries with
  | nil => rfl
  | cons entry rest ih =>
    rw [List.map_cons, List.mem_cons, not_or] at absent
    have differ : ¬ entry.1 = name := fun same => absent.1 same.symm
    rw [putEntry, if_neg differ, ih absent.2, List.cons_append]

/-- Distinct new names are written at the end, in order. -/
theorem entries_insertAll_of_disjoint (entries : List (String × α))
    (distinct : (map.names ++ entries.map Prod.fst).Nodup) :
    (map.insertAll entries).entries = map.entries ++ entries := by
  induction entries generalizing map with
  | nil => rw [insertAll_nil, List.append_nil]
  | cons entry rest ih =>
    have absent : entry.1 ∉ map.names := by
      rw [List.map_cons, List.nodup_append] at distinct
      intro member
      exact distinct.2.2 _ member _ List.mem_cons_self rfl
    have written : (map.insert entry.1 entry.2).entries = map.entries ++ [entry] :=
      putEntry_of_not_mem absent
    have named : (map.insert entry.1 entry.2).names = map.names ++ [entry.1] := by
      rw [names_insert, if_neg absent]
    rw [insertAll_cons, ih (by rw [named]; simpa using distinct), written, List.append_assoc,
      List.singleton_append]

/-- Writing the entries of a map gives the map back. -/
theorem ofList_entries (map : OrderedMap α) : ofList map.entries = map := by
  have distinct : ((empty : OrderedMap α).names ++ map.entries.map Prod.fst).Nodup := by
    simpa [empty, names] using map.distinct
  exact OrderedMap.ext (entries_insertAll_of_disjoint map.entries distinct)

/-- Of two maps written one over the other, the second has the word. -/
theorem get?_insertAll_entries (other : OrderedMap α) :
    (map.insertAll other.entries).get? name = (other.get? name).or (map.get? name) := by
  rw [get?_insertAll, ofList_entries]

/-! ## Other values under the same names -/

section

variable {β : Type v} (f : α → β)

/-- The same names with other values. -/
def mapValues (f : α → β) (source : OrderedMap α) : OrderedMap β :=
  ⟨source.entries.map fun entry => (entry.1, f entry.2), by
    simpa [Function.comp_def] using source.distinct⟩

theorem get?_mapValues (source : OrderedMap α) (name : String) :
    (source.mapValues f).get? name = (source.get? name).map f := by
  obtain ⟨entries, distinct⟩ := source
  simp only [mapValues, get?]
  clear distinct
  induction entries with
  | nil => rfl
  | cons entry rest ih =>
    obtain ⟨key, stored⟩ := entry
    rw [List.map_cons, List.lookup_cons, List.lookup_cons, ih]
    cases name == key <;> rfl

theorem contains_mapValues (source : OrderedMap α) (name : String) :
    (source.mapValues f).contains name = source.contains name := by
  rw [contains, get?_mapValues, Option.isSome_map, contains]

theorem names_mapValues (source : OrderedMap α) : (source.mapValues f).names = source.names := by
  simp [mapValues, names]

theorem values_mapValues (source : OrderedMap α) :
    (source.mapValues f).values = source.values.map f := by
  simp [mapValues, values]

theorem mapValues_insert (source : OrderedMap α) (name : String) (value : α) :
    (source.insert name value).mapValues f = (source.mapValues f).insert name (f value) := by
  obtain ⟨entries, distinct⟩ := source
  refine OrderedMap.ext ?_
  simp only [mapValues, insert]
  clear distinct
  induction entries with
  | nil => rfl
  | cons entry rest ih =>
    rw [List.map_cons, putEntry, putEntry]
    split
    · rfl
    · rw [List.map_cons, ih]

theorem mapValues_insertAll (source : OrderedMap α) (entries : List (String × α)) :
    (source.insertAll entries).mapValues f =
      (source.mapValues f).insertAll (entries.map fun entry => (entry.1, f entry.2)) := by
  induction entries generalizing source with
  | nil => rfl
  | cons entry rest ih =>
    rw [insertAll_cons, ih, mapValues_insert, List.map_cons, insertAll_cons]

theorem mapValues_ofList (entries : List (String × α)) :
    (ofList entries).mapValues f = ofList (entries.map fun entry => (entry.1, f entry.2)) :=
  mapValues_insertAll f empty entries

end

end OrderedMap

end ErdDeploy
