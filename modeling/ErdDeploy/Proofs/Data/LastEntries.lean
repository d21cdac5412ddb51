import ErdDeploy.Proofs.Data.OrderedMap
import Mathlib

/-!
Names that come again.

A map that a list of entries writes has its names in the order in which they first come in
the list (`OrderedMap.names_ofList`), and under each name what the last entry of this name
says (`OrderedMap.get?_ofList_map_iff`). An entry is the last one with a property if no entry
behind it has the property (`LastWith`). As many names come again as there are more names
than distinct ones (`repeats_add_length`).
-/

namespace ErdDeploy

/-! ## The last entry with a property -/

/-- Of the entries of a list, `x` is the last with a property. -/
def LastWith {α : Type u} (P : α → Prop) (xs : List α) (x : α) : Prop :=
  ∃ front back, xs = front ++ x :: back ∧ P x ∧ ∀ y ∈ back, ¬ P y

section

variable {α : Type u} {β : Type v} {P : α → Prop} {xs : List α} {x : α}

theorem LastWith.mem (last : LastWith P xs x) : x ∈ xs := by
  obtain ⟨front, back, rfl, -, -⟩ := last
  exact List.mem_append_right _ List.mem_cons_self

theorem LastWith.holds (last : LastWith P xs x) : P x := by
  obtain ⟨front, back, -, holds, -⟩ := last
  exact holds

/-- The last entry is found first from behind. -/
theorem find?_reverse_eq_some_iff {p : α → Bool} :
    xs.reverse.find? p = some x ↔ LastWith (fun y => p y = true) xs x := by
  rw [List.find?_eq_some_iff_append]
  constructor
  · rintro ⟨holds, behind, before, whole, none⟩
    refine ⟨before.reverse, behind.reverse, ?_, holds, fun y member => ?_⟩
    · rw [← List.reverse_reverse xs, whole]
      simp
    · simpa using none y (List.mem_reverse.mp member)
  · rintro ⟨front, back, rfl, holds, none⟩
    refine ⟨holds, back.reverse, front.reverse, by simp, fun y member => ?_⟩
    simpa using none y (List.mem_reverse.mp member)

/-- The last of the entries that are made from some others is made from the last of those. -/
theorem lastWith_filterMap_iff {f : β → Option α} {ys : List β} :
    LastWith P (ys.filterMap f) x ↔
      ∃ y, LastWith (fun y => ∃ x, f y = some x ∧ P x) ys y ∧ f y = some x := by
  constructor
  · rintro ⟨front, back, whole, holds, none⟩
    obtain ⟨before, behind, rfl, -, rest⟩ := List.filterMap_eq_append_iff.mp whole
    obtain ⟨passed, y, others, rfl, nothing, made, rfl⟩ := List.filterMap_eq_cons_iff.mp rest
    refine ⟨y, ⟨before ++ passed, others, by simp, ⟨x, made, holds⟩, ?_⟩, made⟩
    rintro z member ⟨x', made', holds'⟩
    exact none x' (List.mem_filterMap.mpr ⟨z, member, made'⟩) holds'
  · rintro ⟨y, ⟨front, back, rfl, ⟨x', made', holds⟩, none⟩, made⟩
    cases made.symm.trans made'
    refine ⟨front.filterMap f, back.filterMap f, by simp [made], holds, fun x' member => ?_⟩
    obtain ⟨z, among, made''⟩ := List.mem_filterMap.mp member
    exact fun holds' => none z among ⟨x', made'', holds'⟩

theorem lastWith_map_iff {f : β → α} {ys : List β} :
    LastWith P (ys.map f) x ↔ ∃ y, LastWith (fun y => P (f y)) ys y ∧ f y = x := by
  rw [← List.filterMap_eq_map, lastWith_filterMap_iff]
  simp

theorem lastWith_cons_iff {first : α} {rest : List α} :
    LastWith P (first :: rest) x ↔ LastWith P rest x ∨ (x = first ∧ P x ∧ ∀ y ∈ rest, ¬ P y) := by
  constructor
  · rintro ⟨front, back, whole, holds, none⟩
    cases front with
    | nil =>
        obtain ⟨rfl, rfl⟩ := List.cons_eq_cons.mp whole
        exact Or.inr ⟨rfl, holds, none⟩
    | cons here front =>
        obtain ⟨-, rfl⟩ := List.cons_eq_cons.mp whole
        exact Or.inl ⟨front, back, rfl, holds, none⟩
  · rintro (⟨front, back, rfl, holds, none⟩ | ⟨rfl, holds, none⟩)
    · exact ⟨first :: front, back, rfl, holds, none⟩
    · exact ⟨[], rest, rfl, holds, none⟩

end

/-! ## Distinct names -/

theorem nodup_eraseDups (names : List String) : names.eraseDups.Nodup := by
  cases names with
  | nil => exact List.nodup_nil
  | cons name rest =>
      rw [List.eraseDups_cons, List.nodup_cons]
      refine ⟨?_, nodup_eraseDups (rest.filter fun other => !other == name)⟩
      rw [List.mem_eraseDups]
      simp
termination_by names.length
decreasing_by
  rw [List.length_cons]
  exact Nat.lt_succ_of_le (List.length_filter_le _ _)

theorem eraseDups_concat (names : List String) (name : String) :
    (names ++ [name]).eraseDups =
      if name ∈ names then names.eraseDups else names.eraseDups ++ [name] := by
  rw [List.eraseDups_append, List.removeAll]
  split
  · next known => simp [known]
  · next unknown => simp [unknown, List.eraseDups_cons]

/-- How many of some names come again, behind names that came before. -/
def repeats (before : List String) : List String → Nat
  | [] => 0
  | name :: names => (if name ∈ before then 1 else 0) + repeats (name :: before) names

theorem filter_not_mem_cons (name : String) (before names : List String) :
    (names.filter fun other => !(name :: before).contains other) =
      (names.filter fun other => !before.contains other).filter fun other => !other == name := by
  rw [List.filter_filter]
  refine List.filter_congr fun other _ => ?_
  rw [List.contains_cons, Bool.not_or]

/-- Each name comes again, or is new. -/
theorem repeats_add_length_new (before names : List String) :
    repeats before names + (names.filter fun name => !before.contains name).eraseDups.length =
      names.length := by
  induction names generalizing before with
  | nil => rfl
  | cons name names ih =>
      have others := ih (name :: before)
      rw [filter_not_mem_cons] at others
      rw [repeats, List.length_cons]
      by_cases known : name ∈ before
      · have same : ((names.filter fun other => !before.contains other).filter
            fun other => !other == name) = names.filter fun other => !before.contains other := by
          rw [List.filter_eq_self]
          intro other member
          have unknown := (List.mem_filter.mp member).2
          have differ : other ≠ name := by
            rintro rfl
            simp [known] at unknown
          simpa using differ
        rw [same] at others
        rw [if_pos known, List.filter_cons_of_neg (by simp [known])]
        omega
      · rw [if_neg known, List.filter_cons_of_pos (by simp [known]), List.eraseDups_cons,
          List.length_cons]
        omega

/-- As many names come again as there are more names than distinct ones. -/
theorem repeats_add_length (names : List String) :
    repeats [] names + names.eraseDups.length = names.length := by
  have counted := repeats_add_length_new [] names
  rwa [List.filter_eq_self.mpr (by simp)] at counted

/-- The same for the names of several scopes, each counted on its own. -/
theorem sum_repeats_add {α : Type u} (namesOf : α → List String) (scopes : List α) :
    (scopes.map fun scope => repeats [] (namesOf scope)).sum +
        (scopes.map fun scope => (namesOf scope).eraseDups.length).sum =
      (scopes.map fun scope => (namesOf scope).length).sum := by
  induction scopes with
  | nil => rfl
  | cons scope scopes ih =>
      have here := repeats_add_length (namesOf scope)
      simp only [List.map_cons, List.sum_cons]
      omega

/-! ## Maps -/

namespace OrderedMap

variable {α : Type u} {β : Type v} {name : String} {value : α}

theorem names_insertAll (map : OrderedMap α) (entries : List (String × α)) :
    (map.insertAll entries).names = map.names ++
      ((entries.map Prod.fst).filter fun name => !map.names.contains name).eraseDups := by
  induction entries generalizing map with
  | nil => rw [insertAll_nil, List.map_nil, List.filter_nil, List.eraseDups_nil, List.append_nil]
  | cons entry entries ih =>
      obtain ⟨name, value⟩ := entry
      rw [insertAll_cons, ih, names_insert, List.map_cons]
      by_cases known : name ∈ map.names
      · rw [if_pos known, List.filter_cons_of_neg (by simp [known])]
      · have later : ((entries.map Prod.fst).filter
            fun other => !(map.names ++ [name]).contains other) =
            ((entries.map Prod.fst).filter fun other => !map.names.contains other).filter
              fun other => !other == name := by
          rw [← filter_not_mem_cons]
          refine List.filter_congr fun other _ => ?_
          simp [or_comm]
        rw [if_neg known, List.filter_cons_of_pos (by simp [known]), List.eraseDups_cons, later,
          List.append_assoc, List.singleton_append]

/-- The names stand in the order in which they first come. -/
theorem names_ofList (entries : List (String × α)) :
    (ofList entries).names = (entries.map Prod.fst).eraseDups := by
  have nothing : (empty : OrderedMap α).names = [] := rfl
  rw [ofList, names_insertAll, nothing, List.nil_append, List.filter_eq_self.mpr (by simp)]

theorem ofList_cons_get? (entry : String × α) (entries : List (String × α)) :
    (ofList (entry :: entries)).get? name =
      ((ofList entries).get? name).or (if name = entry.1 then some entry.2 else none) := by
  rw [← List.singleton_append, get?_ofList_append]
  congr 1
  rw [ofList, insertAll_cons, insertAll_nil, get?_insert]
  rfl

/-- Under each name stands what its last entry says. -/
theorem get?_ofList_iff {entries : List (String × α)} :
    (ofList entries).get? name = some value ↔
      LastWith (fun entry => entry.1 = name) entries (name, value) := by
  induction entries with
  | nil =>
      constructor
      · nofun
      · rintro ⟨front, back, whole, -⟩
        simp at whole
  | cons entry entries ih =>
      rw [ofList_cons_get?, Option.or_eq_some_iff, ih, lastWith_cons_iff, get?_eq_none_iff,
        mem_names_ofList, List.mem_map]
      refine or_congr_right ?_
      constructor
      · rintro ⟨none, here⟩
        split at here
        · next same =>
          cases here
          exact ⟨Prod.ext same rfl, rfl, fun other member same' => none ⟨other, member, same'⟩⟩
        · cases here
      · rintro ⟨rfl, -, none⟩
        exact ⟨fun ⟨other, member, same⟩ => none other member same, if_pos rfl⟩

/-- The same for entries that are made from something named. -/
theorem get?_ofList_map_iff {xs : List β} {key : β → String} {f : β → α} :
    (ofList (xs.map fun x => (key x, f x))).get? name = some value ↔
      ∃ x, LastWith (fun x => key x = name) xs x ∧ f x = value := by
  rw [get?_ofList_iff, lastWith_map_iff]
  constructor
  · rintro ⟨x, last, same⟩
    exact ⟨x, last, congrArg Prod.snd same⟩
  · rintro ⟨x, last, rfl⟩
    exact ⟨x, last, Prod.ext last.holds rfl⟩

end OrderedMap

end ErdDeploy
