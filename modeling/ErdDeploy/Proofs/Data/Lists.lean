import Mathlib.Data.List.Forall2

/-!
Two lists side by side.

What is related entry by entry is found from either side: each entry of one list has its
match among those of the other. And a list is cut in one way only in front of the first
entry with a property.
-/

namespace ErdDeploy

section

variable {α β : Type} {R : α → β → Prop} {xs : List α} {ys : List β}

theorem exists_right_of_forall₂ (related : List.Forall₂ R xs ys) :
    ∀ x ∈ xs, ∃ y ∈ ys, R x y := by
  induction related with
  | nil => simp
  | @cons x y xs ys here _ ih =>
      intro other member
      rcases List.mem_cons.mp member with rfl | later
      · exact ⟨y, List.mem_cons_self, here⟩
      · obtain ⟨match', among, there⟩ := ih other later
        exact ⟨match', List.mem_cons_of_mem _ among, there⟩

theorem exists_left_of_forall₂ (related : List.Forall₂ R xs ys) :
    ∀ y ∈ ys, ∃ x ∈ xs, R x y :=
  exists_right_of_forall₂ related.flip

/-- The entry behind some front has its match at the length of the front. -/
theorem exists_at_of_forall₂ {front rest : List α} {x : α}
    (related : List.Forall₂ R (front ++ x :: rest) ys) :
    ∃ y, ys[front.length]? = some y ∧ R x y := by
  induction front generalizing ys with
  | nil =>
      cases related with
      | cons here _ => exact ⟨_, rfl, here⟩
  | cons first front ih =>
      cases related with
      | cons _ later =>
          obtain ⟨y, found, here⟩ := ih later
          refine ⟨y, ?_, here⟩
          rwa [List.length_cons, List.getElem?_cons_succ]

/-- A list whose entries are each made from those of another list is that list mapped. -/
theorem eq_map_of_forall₂ {f : α → β} (related : List.Forall₂ R xs ys)
    (made : ∀ x y, R x y → y = f x) : ys = xs.map f := by
  induction related with
  | nil => rfl
  | cons here _ ih => rw [List.map_cons, made _ _ here, ih]

/-- Two lists that look the same entry by entry look the same. -/
theorem map_of_forall₂ {γ : Type} {f : α → γ} {g : β → γ} (related : List.Forall₂ R xs ys)
    (same : ∀ x y, R x y → f x = g y) : xs.map f = ys.map g := by
  induction related with
  | nil => rfl
  | cons here _ ih => rw [List.map_cons, List.map_cons, same _ _ here, ih]

/-- The same, where some entries are not looked at. -/
theorem map_filterMap_of_forall₂ {γ δ : Type} {f : α → Option γ} {g : β → Option γ} {look : γ → δ}
    (related : List.Forall₂ R xs ys) (same : ∀ x y, R x y → (f x).map look = (g y).map look) :
    (xs.filterMap f).map look = (ys.filterMap g).map look := by
  rw [List.map_filterMap, List.map_filterMap]
  induction related with
  | nil => rfl
  | cons here _ ih => rw [List.filterMap_cons, List.filterMap_cons, same _ _ here, ih]

theorem forall₂_of_map_eq {γ : Type} {f : α → γ} {g : β → γ} (same : xs.map f = ys.map g) :
    List.Forall₂ (fun x y => f x = g y) xs ys := by
  rwa [← List.forall₂_eq_eq_eq, List.forall₂_map_left_iff, List.forall₂_map_right_iff] at same

end

/-- What follows the entries without a property is found again. -/
theorem eq_of_append_cons_eq {α : Type} {P : α → Prop} {front front' rest rest' : List α}
    {first first' : α} (same : front ++ first :: rest = front' ++ first' :: rest')
    (free : ∀ x ∈ front, ¬ P x) (free' : ∀ x ∈ front', ¬ P x) (here : P first)
    (here' : P first') : first :: rest = first' :: rest' := by
  induction front generalizing front' with
  | nil =>
      cases front' with
      | nil => exact same
      | cons x front' =>
          obtain ⟨rfl, -⟩ := List.cons_eq_cons.mp same
          exact absurd here (free' first List.mem_cons_self)
  | cons x front ih =>
      cases front' with
      | nil =>
          obtain ⟨rfl, -⟩ := List.cons_eq_cons.mp same
          exact absurd here' (free x List.mem_cons_self)
      | cons x' front' =>
          obtain ⟨-, tails⟩ := List.cons_eq_cons.mp same
          exact ih tails (fun y member => free y (List.mem_cons_of_mem _ member))
            fun y member => free' y (List.mem_cons_of_mem _ member)

end ErdDeploy
