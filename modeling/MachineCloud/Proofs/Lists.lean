import Mathlib.Data.List.Forall2

/-!
# Lists and results

What other modules need about lists and about results in a row, and what does not depend on what is in the
lists.  The lemmas on results tell what a step was if the whole succeeded or failed, so that nobody has to
take a sequence or a traversal apart by hand.
-/

namespace MachineCloud

/-! ## Results in a row -/

section Results

variable {ε α β : Type}

/-- A sequence of results succeeds only if its first result does, and the rest on what that one gives. -/
theorem exists_of_bind_eq_ok {x : Except ε α} {k : α → Except ε β} {b : β} (h : (x >>= k) = .ok b) :
    ∃ a, x = .ok a ∧ k a = .ok b := by
  cases x with
  | error e => cases h
  | ok a => exact ⟨a, rfl, h⟩

/-- It fails only if its first result does, or the rest on what that one gives. -/
theorem error_or_exists_of_bind_eq_error {x : Except ε α} {k : α → Except ε β} {e : ε}
    (h : (x >>= k) = .error e) : x = .error e ∨ ∃ a, x = .ok a ∧ k a = .error e := by
  cases x with
  | error e' =>
    cases h
    exact .inl rfl
  | ok a => exact .inr ⟨a, rfl, h⟩

/-- A traversal that succeeds does so item by item. -/
theorem forall₂_of_mapM {f : α → Except ε β} {as : List α} {bs : List β} (h : as.mapM f = .ok bs) :
    List.Forall₂ (fun a b => f a = .ok b) as bs := by
  induction as generalizing bs with
  | nil =>
    cases h
    exact .nil
  | cons a rest ih =>
    rw [List.mapM_cons] at h
    obtain ⟨b, hb, h⟩ := exists_of_bind_eq_ok h
    obtain ⟨bs', hrest, h⟩ := exists_of_bind_eq_ok h
    cases h
    exact .cons hb (ih hrest)

/-- A traversal that fails does so at one of the items. -/
theorem exists_of_mapM_eq_error {f : α → Except ε β} {as : List α} {e : ε} (h : as.mapM f = .error e) :
    ∃ a ∈ as, f a = .error e := by
  induction as with
  | nil => cases h
  | cons a rest ih =>
    rw [List.mapM_cons] at h
    rcases error_or_exists_of_bind_eq_error h with ha | ⟨b, -, h⟩
    · exact ⟨a, List.mem_cons_self, ha⟩
    · rcases error_or_exists_of_bind_eq_error h with hrest | ⟨bs, -, h⟩
      · obtain ⟨a', hmem, ha'⟩ := ih hrest
        exact ⟨a', List.mem_cons_of_mem _ hmem, ha'⟩
      · cases h

/-- A list of which every item is there is the one of what is there. -/
theorem eq_map_some_of_mapM {parts : List (Option α)} {as : List α} (h : parts.mapM id = some as) :
    parts = as.map some := by
  induction parts generalizing as with
  | nil =>
    cases h
    rfl
  | cons part parts ih =>
    rw [List.mapM_cons, Option.bind_eq_bind, Option.bind_eq_some_iff] at h
    obtain ⟨a, hpart, h⟩ := h
    rw [Option.bind_eq_bind, Option.bind_eq_some_iff] at h
    obtain ⟨rest, hparts, h⟩ := h
    cases h
    rw [List.map_cons, ← ih hparts, ← hpart]
    rfl

end Results

/-! ## Where a list is cut -/

section Cuts

variable {α : Type}

/-- A list up to the first item that ends it. -/
theorem takeWhile_append_of_end {p : α → Bool} {as rest : List α} (h : ∀ a ∈ as, p a = true)
    (hrest : ∀ a, rest.head? = some a → p a = false) :
    (as ++ rest).takeWhile p = as ∧ (as ++ rest).dropWhile p = rest := by
  rw [List.takeWhile_append_of_pos h, List.dropWhile_append_of_pos h]
  cases rest with
  | nil => exact ⟨List.append_nil as, rfl⟩
  | cons a left =>
    rw [List.takeWhile_cons, List.dropWhile_cons, hrest a rfl]
    exact ⟨List.append_nil as, rfl⟩

/-- Before the first of some separators there is only one list. -/
theorem eq_of_append_cons_eq {q : α} {as as' bs bs' : List α} (h : q ∉ as) (h' : q ∉ as')
    (heq : as ++ q :: bs = as' ++ q :: bs') : as = as' ∧ bs = bs' := by
  induction as generalizing as' with
  | nil =>
    cases as' with
    | nil => exact ⟨rfl, (List.cons.inj heq).2⟩
    | cons a rest => exact absurd (List.cons.inj heq).1 fun ha => h' (ha ▸ List.mem_cons_self)
  | cons a rest ih =>
    cases as' with
    | nil => exact absurd (List.cons.inj heq).1 fun ha => h (ha ▸ List.mem_cons_self)
    | cons a' rest' =>
      obtain ⟨rfl, hrest⟩ := List.cons.inj heq
      obtain ⟨rfl, hbs⟩ := ih (List.not_mem_of_not_mem_cons h) (List.not_mem_of_not_mem_cons h') hrest
      exact ⟨rfl, hbs⟩

/-- No piece of a split has the separator in it. -/
theorem notMem_of_mem_splitOn [BEq α] [LawfulBEq α] {separator : α} {as piece : List α}
    (h : piece ∈ as.splitOn separator) : separator ∉ piece := by
  induction as generalizing piece with
  | nil =>
    rw [List.splitOn_nil] at h
    cases List.mem_singleton.mp h
    exact List.not_mem_nil
  | cons a as ih =>
    rw [List.splitOn_cons_eq_if_modifyHead] at h
    split at h
    · rcases List.mem_cons.mp h with rfl | hrest
      · exact List.not_mem_nil
      · exact ih hrest
    · next ha =>
      obtain ⟨first, rest, hsplit⟩ := List.exists_cons_of_ne_nil (List.splitOn_ne_nil separator as)
      rw [hsplit] at h ih
      rcases List.mem_cons.mp h with rfl | hrest
      · intro hmem
        rcases List.mem_cons.mp hmem with rfl | hmem
        · exact ha BEq.rfl
        · exact ih List.mem_cons_self hmem
      · exact ih (List.mem_cons_of_mem _ hrest)

end Cuts

/-! ## Lists side by side -/

section Pairs

variable {α β γ : Type}

/-- A pair from a list with one more item at its end is one from before, or has that item. -/
theorem mem_zip_concat {as : List α} {a last : α} {bs : List β} {b : β} :
    (a, b) ∈ (as ++ [last]).zip bs ↔
      (a, b) ∈ as.zip bs ∨ a = last ∧ (bs.drop as.length).head? = some b := by
  induction as generalizing bs with
  | nil => cases bs <;> simp [eq_comm]
  | cons first as ih =>
    cases bs with
    | nil => simp
    | cons b' bs => simp [ih, or_assoc]

/-- What relates to some of a list in order relates to those that they come from. -/
theorem sublistForall₂_of_forall₂ {R : α → β → Prop} {S : γ → β → Prop} {T : α → γ → Prop}
    (hT : ∀ a b c, R a b → S c b → T a c) {as : List α} {bs : List β} {cs : List γ}
    (has : List.SublistForall₂ R as bs) (hcs : List.Forall₂ S cs bs) :
    List.SublistForall₂ T as cs := by
  induction has generalizing cs with
  | nil => exact .nil
  | cons hr _ ih =>
    cases hcs with
    | cons hs hrest => exact .cons (hT _ _ _ hr hs) (ih hrest)
  | cons_right _ ih =>
    cases hcs with
    | cons _ hrest => exact .cons_right (ih hrest)

end Pairs

/-! ## Lists without repetitions -/

section Nodup

variable {α β : Type} (f : α → β) {l : List α} (h : (l.map f).Nodup) (k : Nat)

include h in
/-- Nothing after the first `k` shares its image with one of them. -/
theorem notMem_take_of_mem_drop {a : α} (ha : a ∈ l.drop k) : f a ∉ (l.take k).map f := by
  intro hmem
  rw [← List.take_append_drop k l, List.map_append, List.nodup_append] at h
  exact h.2.2 _ hmem _ (List.mem_map_of_mem ha) rfl

include h in
/-- So what is left without all that shares its image with one of the first `k` is what comes after
them. -/
theorem filter_notMem_take [BEq β] [LawfulBEq β] :
    l.filter (fun a => f a ∉ (l.take k).map f) = l.drop k := by
  have htake : (l.take k).filter (fun a => f a ∉ (l.take k).map f) = [] := by
    apply List.filter_eq_nil_iff.mpr
    intro a ha
    simpa using List.mem_map_of_mem (f := f) ha
  have hdrop : (l.drop k).filter (fun a => f a ∉ (l.take k).map f) = l.drop k := by
    apply List.filter_eq_self.mpr
    intro a ha
    exact decide_eq_true (notMem_take_of_mem_drop f h k ha)
  calc l.filter (fun a => f a ∉ (l.take k).map f)
      = (l.take k ++ l.drop k).filter (fun a => f a ∉ (l.take k).map f) := by
        rw [List.take_append_drop]
    _ = l.drop k := by rw [List.filter_append, htake, hdrop, List.nil_append]

end Nodup

end MachineCloud
