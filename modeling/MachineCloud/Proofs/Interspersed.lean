/-!
# Foreign items in a list

A list may reach its reader with foreign items put in between its own, as many as one likes and anywhere
(`Interspersed`).  A reader that passes over foreign items does not notice.  Items that can be told from
foreign ones are all that is left once these are dropped (`filter_eq`), and what each item is spelled with
is interspersed with what the foreign ones are spelled with (`flatMap`).
-/

namespace MachineCloud

/-- Whether the second list is the first one with foreign items put in. -/
inductive Interspersed {α : Type} (foreign : α → Prop) : List α → List α → Prop
  | nil : Interspersed foreign [] []
  | own {x : α} {xs ys : List α} (h : Interspersed foreign xs ys) :
      Interspersed foreign (x :: xs) (x :: ys)
  | other {y : α} {xs ys : List α} (hforeign : foreign y) (h : Interspersed foreign xs ys) :
      Interspersed foreign xs (y :: ys)

namespace Interspersed

variable {α β : Type} {foreign : α → Prop} {xs ys xs' ys' : List α}

/-- Nothing needs to be put in. -/
theorem refl (xs : List α) : Interspersed foreign xs xs := by
  induction xs with
  | nil => exact .nil
  | cons x xs ih => exact .own ih

/-- There may be foreign items only. -/
theorem of_forall (h : ∀ y ∈ ys, foreign y) : Interspersed foreign [] ys := by
  induction ys with
  | nil => exact .nil
  | cons y ys ih =>
    obtain ⟨hy, hys⟩ := List.forall_mem_cons.mp h
    exact .other hy (ih hys)

theorem append (h : Interspersed foreign xs ys) (h' : Interspersed foreign xs' ys') :
    Interspersed foreign (xs ++ xs') (ys ++ ys') := by
  induction h with
  | nil => exact h'
  | own _ ih => exact .own ih
  | other hforeign _ ih => exact .other hforeign ih

/-- What is left without the foreign items is the list. -/
theorem filter_eq {p : α → Bool} (h : Interspersed foreign xs ys) (hown : ∀ x ∈ xs, p x = true)
    (hforeign : ∀ y, foreign y → p y = false) : ys.filter p = xs := by
  induction h with
  | nil => rfl
  | own _ ih =>
    obtain ⟨hx, hxs⟩ := List.forall_mem_cons.mp hown
    rw [List.filter_cons_of_pos hx, ih hxs]
  | other hy _ ih => rw [List.filter_cons_of_neg (by simp [hforeign _ hy]), ih hown]

/-- If foreign items are spelled with foreign ones, spelling out keeps them foreign. -/
theorem flatMap {foreign' : β → Prop} {f : α → List β} (h : Interspersed foreign xs ys)
    (hspelled : ∀ y, foreign y → ∀ z ∈ f y, foreign' z) :
    Interspersed foreign' (xs.flatMap f) (ys.flatMap f) := by
  induction h with
  | nil => exact .nil
  | own _ ih =>
    rw [List.flatMap_cons, List.flatMap_cons]
    exact (refl _).append ih
  | other hy _ ih =>
    rw [List.flatMap_cons]
    exact (of_forall (hspelled _ hy)).append ih

end Interspersed

end MachineCloud
