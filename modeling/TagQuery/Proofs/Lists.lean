import Mathlib.Data.List.Forall2

/-!
# Lists that correspond item by item

Small facts about lists with an item replaced, and about two lists whose items
stand in a relation.
-/

namespace TagQuery

variable {α β γ : Type}

theorem modify_eq_set {l : List α} {place : ℕ} {x : α} (f : α → α)
    (h : l[place]? = some x) : l.modify place f = l.set place (f x) := by
  rw [List.modify_eq_set_getElem?, h]
  rfl

theorem set_eq_self {l : List α} {place : ℕ} {x : α} (h : l[place]? = some x) :
    l.set place x = l := by
  obtain ⟨hlength, rfl⟩ := List.getElem?_eq_some_iff.mp h
  exact List.set_getElem_self hlength

theorem forall_mem_set {P : α → Prop} {l : List α} {place : ℕ} {x : α} (h : ∀ y ∈ l, P y)
    (hx : P x) : ∀ y ∈ l.set place x, P y := by
  intro y hy
  rcases List.mem_or_eq_of_mem_set hy with hy | rfl
  · exact h y hy
  · exact hx

/-- What stands at a place after one item is replaced is the new item or stood there before. -/
theorem getElem?_set_cases {l : List α} {place i : ℕ} {x y : α}
    (h : (l.set place x)[i]? = some y) : (place = i ∧ y = x) ∨ (place ≠ i ∧ l[i]? = some y) := by
  rw [List.getElem?_set] at h
  by_cases hplace : place = i
  · rw [if_pos hplace] at h
    split at h
    · exact Or.inl ⟨hplace, (Option.some.inj h).symm⟩
    · contradiction
  · rw [if_neg hplace] at h
    exact Or.inr ⟨hplace, h⟩

theorem getElem?_concat_cases {l : List α} {x y : α} {i : ℕ} (h : (l ++ [x])[i]? = some y) :
    l[i]? = some y ∨ y = x := by
  rw [List.getElem?_append] at h
  split at h
  · exact Or.inl h
  · exact Or.inr (List.mem_singleton.mp (List.mem_of_getElem? h))

/-- A list and the same list with one item replaced. -/
theorem forall₂_set {R : α → α → Prop} {l : List α} {place : ℕ} {x y : α}
    (hrefl : ∀ z, R z z) (h : l[place]? = some x) (hR : R x y) :
    List.Forall₂ R l (l.set place y) := by
  induction l generalizing place with
  | nil => exact List.Forall₂.nil
  | cons z l ih =>
      cases place with
      | zero =>
          cases h
          exact List.Forall₂.cons hR (List.forall₂_same.mpr fun z _ => hrefl z)
      | succ place => exact List.Forall₂.cons (hrefl z) (ih h)

theorem forall₂_trans {R : α → α → Prop} {l l' l'' : List α}
    (htrans : ∀ x y z, R x y → R y z → R x z) (h : List.Forall₂ R l l')
    (h' : List.Forall₂ R l' l'') : List.Forall₂ R l l'' := by
  induction h generalizing l'' with
  | nil => exact h'
  | cons hxy hl ih =>
      cases h' with
      | cons hyz hl' => exact List.Forall₂.cons (htrans _ _ _ hxy hyz) (ih hl')

theorem exists_mem_of_forall₂ {R : α → β → Prop} {l : List α} {l' : List β} {y : β}
    (h : List.Forall₂ R l l') (hy : y ∈ l') : ∃ x ∈ l, R x y := by
  induction h with
  | nil => contradiction
  | cons hxy hl ih =>
      rcases List.mem_cons.mp hy with rfl | hy
      · exact ⟨_, List.mem_cons_self, hxy⟩
      · obtain ⟨x, hx, hR⟩ := ih hy
        exact ⟨x, List.mem_cons_of_mem _ hx, hR⟩

/-- Lists whose items have the same images have the same image. -/
theorem map_eq_of_forall₂ {f : α → γ} {g : β → γ} {l : List α} {l' : List β}
    (h : List.Forall₂ (fun x y => f x = g y) l l') : l.map f = l'.map g := by
  induction h with
  | nil => rfl
  | cons hxy hl ih => rw [List.map_cons, List.map_cons, hxy, ih]

/-- Where every item has an image, the images stand at the places of the items. -/
theorem forall₂_filterMap {f : α → Option β} {l : List α} (h : ∀ x ∈ l, ∃ y, f x = some y) :
    List.Forall₂ (fun x y => f x = some y) l (l.filterMap f) := by
  induction l with
  | nil => exact List.Forall₂.nil
  | cons x l ih =>
      rw [List.forall_mem_cons] at h
      obtain ⟨⟨y, hy⟩, hrest⟩ := h
      rw [List.filterMap_cons_some hy]
      exact List.Forall₂.cons hy (ih hrest)

end TagQuery
