import Mathlib.Data.List.Chain
import Mathlib.Data.List.Nodup
import Mathlib.Order.Lattice
import MachineCloud.Listing.Order

/-!
# Sorting is stable

Where items are compared by keys that have a linear order, `Order.sort` gives them in the order of their
keys, and those with one key in the order in which they came (`exists_sort`).  The parts of the sorting each
keep this of the items that they have seen: the run at the start is sorted (`exists_firstRun`), and an item
put in by halving stands behind all that do not come after it (`exists_insert`).
-/

namespace MachineCloud.Order

variable {α β ε κ : Type} [LinearOrder κ]

/-- That a list has the items of another one in the order of their keys, and those with one key in the order
in which they stand there. -/
structure IsSortOf (key : β → κ) (ys xs : List β) : Prop where
  perm : ys.Perm xs
  sorted : ys.Pairwise fun x y => key x ≤ key y
  stable (k : κ) : ys.filter (key · = k) = xs.filter (key · = k)

/-- That the items for some values are compared by keys of the values. -/
def Compares (before : α → α → Except ε Bool) (item : β → α) (key : β → κ) : Prop :=
  ∀ x y, before (item x) (item y) = .ok (decide (key x < key y))

/-! ## Halving -/

theorem insert_nil (before : α → α → Except ε Bool) (x : α) : insert before x [] = .ok [x] := by
  rw [insert]
  split
  · rfl
  · next h => simp at h

/-- An item is put below or above the one in the middle. -/
theorem insert_middle {lower upper : List α} {middle : α}
    (hlower : lower.length = (lower ++ middle :: upper).length / 2) (before : α → α → Except ε Bool) (x : α) :
    insert before x (lower ++ middle :: upper) = (before x middle).bind fun below =>
      if below then (insert before x lower).map (· ++ middle :: upper)
      else (insert before x upper).map (lower ++ middle :: ·) := by
  have hdrop : (lower ++ middle :: upper).drop ((lower ++ middle :: upper).length / 2) = middle :: upper :=
    List.drop_left' hlower
  have htake : (lower ++ middle :: upper).take ((lower ++ middle :: upper).length / 2) = lower :=
    List.take_left' hlower
  rw [insert]
  split
  · next h => cases hdrop.symm.trans h
  · next middle' upper' h =>
    obtain ⟨rfl, rfl⟩ := List.cons.inj (hdrop.symm.trans h)
    rw [htake]
    rcases before x middle with e | _ | _ <;> rfl

section

variable {key : β → κ} {xs ys : List β}

/-! ## Runs -/

theorem IsSortOf.of_climbing (h : xs.IsChain fun x y => key x ≤ key y) : IsSortOf key xs xs := by
  have : Trans (fun x y => key x ≤ key y) (fun x y => key x ≤ key y) fun x y => key x ≤ key y := ⟨le_trans⟩
  exact ⟨.refl xs, List.isChain_iff_pairwise.mp h, fun _ => rfl⟩

/-- A run that falls has no key twice, and so may be reversed. -/
theorem IsSortOf.of_falling (h : xs.IsChain fun x y => key y < key x) : IsSortOf key xs.reverse xs := by
  have : Trans (fun x y => key y < key x) (fun x y => key y < key x) fun x y => key y < key x :=
    ⟨fun hxy hyz => lt_trans hyz hxy⟩
  have hfalls := List.isChain_iff_pairwise.mp h
  refine ⟨xs.reverse_perm, List.pairwise_reverse.mpr (hfalls.imp le_of_lt), fun k => ?_⟩
  have hmost := hfalls.filter (key · = k)
  rw [List.filter_reverse]
  rcases hfilter : xs.filter (key · = k) with _ | ⟨x, _ | ⟨y, rest⟩⟩
  · rfl
  · rfl
  · have hx : x ∈ xs.filter (key · = k) := hfilter ▸ List.mem_cons_self
    have hy : y ∈ xs.filter (key · = k) := hfilter ▸ List.mem_cons_of_mem x List.mem_cons_self
    rw [hfilter] at hmost
    have hlt := List.rel_of_pairwise_cons hmost List.mem_cons_self
    simp only [List.mem_filter, decide_eq_true_eq] at hx hy
    rw [hx.2, hy.2] at hlt
    exact absurd hlt (lt_irrefl k)

variable {before : α → α → Except ε Bool} {item : β → α} (hbefore : Compares before item key)
include hbefore

/-- A run is extended by the items that go on with it. -/
theorem exists_extendRun (falls : Bool) (x : β) (older xs : List β) :
    ∃ run rest, xs = run ++ rest ∧ (x :: run).IsChain (fun a b => decide (key b < key a) = falls) ∧
      extendRun before falls (item x) (older.map item) (xs.map item) =
        .ok ((run.reverse ++ x :: older).map item, rest.map item) := by
  induction xs generalizing x older with
  | nil => exact ⟨[], [], rfl, .singleton x, rfl⟩
  | cons y rest ih =>
    by_cases hfalls : decide (key y < key x) = falls
    · obtain ⟨run, rest', rfl, hchain, hrun⟩ := ih y (x :: older)
      refine ⟨y :: run, rest', rfl, .cons_cons hfalls hchain, ?_⟩
      rw [List.map_cons, extendRun, hbefore]
      simpa [hfalls] using hrun
    · refine ⟨[], y :: rest, rfl, .singleton x, ?_⟩
      rw [List.map_cons, extendRun, hbefore]
      simp [hfalls]

/-- The run at the start is sorted. -/
theorem exists_firstRun (xs : List β) :
    ∃ front run rest, xs = front ++ rest ∧ IsSortOf key run front ∧
      firstRun before (xs.map item) = .ok (run.map item, rest.map item) := by
  rcases xs with _ | ⟨x, _ | ⟨y, rest⟩⟩
  · exact ⟨[], [], [], rfl, .of_climbing .nil, rfl⟩
  · exact ⟨[x], [x], [], rfl, .of_climbing (.singleton x), rfl⟩
  · obtain ⟨run, rest, rfl, hchain, hrun⟩ := exists_extendRun hbefore (decide (key y < key x)) y [x] rest
    have hfront : (x :: y :: run).IsChain fun a b => decide (key b < key a) = decide (key y < key x) :=
      .cons_cons rfl hchain
    have hfirst : firstRun before ((x :: y :: (run ++ rest)).map item) =
        .ok ((if key y < key x then (x :: y :: run).reverse else x :: y :: run).map item, rest.map item) := by
      rw [List.map_cons, List.map_cons, firstRun, hbefore]
      change (extendRun before _ (item y) ([x].map item) _).map _ = _
      rw [hrun]
      by_cases hfalls : key y < key x <;> simp [Except.map, hfalls]
    by_cases hfalls : key y < key x
    · rw [if_pos hfalls] at hfirst
      exact ⟨x :: y :: run, _, rest, rfl, .of_falling (hfront.imp (by simp [hfalls])), hfirst⟩
    · rw [if_neg hfalls] at hfirst
      exact ⟨x :: y :: run, _, rest, rfl, .of_climbing (hfront.imp (by simp [hfalls])), hfirst⟩

/-! ## Putting in -/

/-- An item is put behind all those that do not come after it. -/
theorem exists_insert (x : β) (hsorted : ys.Pairwise fun a b => key a ≤ key b) :
    ∃ below above, ys = below ++ above ∧ (∀ a ∈ below, key a ≤ key x) ∧ (∀ b ∈ above, key x < key b) ∧
      insert before (item x) (ys.map item) = .ok ((below ++ x :: above).map item) := by
  induction h : ys.length using Nat.strong_induction_on generalizing ys with
  | _ n ih =>
    subst h
    rcases hdrop : ys.drop (ys.length / 2) with _ | ⟨middle, upper⟩
    · have hnil : ys = [] := by
        have hlength := congrArg List.length hdrop
        rw [List.length_drop, List.length_nil] at hlength
        exact List.length_eq_zero_iff.mp (by omega)
      subst hnil
      exact ⟨[], [], rfl, List.forall_mem_nil _, List.forall_mem_nil _, insert_nil before _⟩
    · obtain ⟨lower, hlower⟩ : ∃ lower, lower = ys.take (ys.length / 2) := ⟨_, rfl⟩
      have hys : ys = lower ++ middle :: upper := by rw [hlower, ← hdrop, List.take_append_drop]
      have hlength : lower.length = ys.length / 2 := by rw [hlower, List.length_take]; omega
      clear hdrop hlower
      subst hys
      have hhalf : (lower.map item).length = (lower.map item ++ item middle :: upper.map item).length / 2 := by
        simpa using hlength
      have hinsert := insert_middle hhalf before (item x)
      rw [hbefore] at hinsert
      obtain ⟨hbelow, habove, hcross⟩ := List.pairwise_append.mp hsorted
      obtain ⟨hmiddle, hupper⟩ := List.pairwise_cons.mp habove
      by_cases hlt : key x < key middle
      · obtain ⟨below, above, rfl, hle, hgt, hput⟩ := ih lower.length (by simp) hbelow rfl
        refine ⟨below, above ++ middle :: upper, by rw [List.append_assoc], hle, ?_, ?_⟩
        · intro b hb
          rcases List.mem_append.mp hb with hb | hb
          · exact hgt b hb
          · rcases List.mem_cons.mp hb with rfl | hb
            · exact hlt
            · exact hlt.trans_le (hmiddle b hb)
        · rw [List.map_append, List.map_cons, hinsert, hput]
          simp [Except.bind, Except.map, hlt]
      · obtain ⟨below, above, rfl, hle, hgt, hput⟩ := ih upper.length (by simp; omega) hupper rfl
        refine ⟨lower ++ middle :: below, above, by rw [List.append_assoc]; rfl, ?_, hgt, ?_⟩
        · intro a ha
          rcases List.mem_append.mp ha with ha | ha
          · exact (hcross a ha middle List.mem_cons_self).trans (not_lt.mp hlt)
          · rcases List.mem_cons.mp ha with rfl | ha
            · exact not_lt.mp hlt
            · exact hle a ha
        · rw [List.map_append, List.map_cons, hinsert, hput]
          simp [Except.bind, Except.map, hlt]

/-- With one more item, the sorted ones are still those that have been seen. -/
theorem exists_insert_of_isSortOf (x : β) (h : IsSortOf key ys xs) :
    ∃ zs, insert before (item x) (ys.map item) = .ok (zs.map item) ∧ IsSortOf key zs (xs ++ [x]) := by
  obtain ⟨below, above, rfl, hle, hgt, hput⟩ := exists_insert hbefore x h.sorted
  obtain ⟨hbelow, habove, hcross⟩ := List.pairwise_append.mp h.sorted
  refine ⟨_, hput, ?_, ?_, fun k => ?_⟩
  · calc below ++ x :: above
      List.Perm _ (x :: (below ++ above)) := List.perm_middle
      List.Perm _ (x :: xs) := h.perm.cons x
      List.Perm _ (xs ++ [x]) := (List.perm_append_singleton x xs).symm
  · refine List.pairwise_append.mpr ⟨hbelow, List.pairwise_cons.mpr ⟨fun b hb => (hgt b hb).le, habove⟩, ?_⟩
    intro a ha b hb
    rcases List.mem_cons.mp hb with rfl | hb
    · exact hle a ha
    · exact hcross a ha b hb
  · have hseen := h.stable k
    rw [List.filter_append] at hseen
    rw [List.filter_append, List.filter_append, ← hseen]
    by_cases hk : key x = k
    · -- Whatever stands above has another key, so that the item comes last among those with its key.
      have hnone : above.filter (key · = k) = [] := by
        simpa using fun b hb (he : key b = k) => absurd (hgt b hb) (by rw [hk, he]; exact lt_irrefl k)
      simp [hk, hnone]
    · simp [hk]

/-! ## Sorting -/

theorem exists_foldlM_insert (rest : List β) (h : IsSortOf key ys xs) :
    ∃ zs, (rest.map item).foldlM (fun sorted x => insert before x sorted) (ys.map item) = .ok (zs.map item) ∧
      IsSortOf key zs (xs ++ rest) := by
  induction rest generalizing xs ys with
  | nil => exact ⟨ys, rfl, by rwa [List.append_nil]⟩
  | cons x rest ih =>
    obtain ⟨zs, hput, hzs⟩ := exists_insert_of_isSortOf hbefore x h
    obtain ⟨zs', hfold, hzs'⟩ := ih hzs
    refine ⟨zs', ?_, by simpa using hzs'⟩
    rw [List.map_cons, List.foldlM_cons, hput]
    exact hfold

/-- Sorting never fails, and sorts by the keys. -/
theorem exists_sort (xs : List β) :
    ∃ ys, sort before (xs.map item) = .ok (ys.map item) ∧ IsSortOf key ys xs := by
  obtain ⟨front, run, rest, rfl, hrun, hfirst⟩ := exists_firstRun hbefore xs
  obtain ⟨ys, hfold, hys⟩ := exists_foldlM_insert hbefore rest hrun
  refine ⟨ys, ?_, hys⟩
  rw [sort, hfirst]
  exact hfold

end

/-- If no key comes twice, then whatever is shown of the items with their keys comes in one order, in
whichever order the items came. -/
theorem IsSortOf.map_eq {γ : Type} {key : β → κ} {shown : β → γ} {xs xs' ys ys' : List β}
    (h : IsSortOf key ys xs) (h' : IsSortOf key ys' xs') (shownKey : γ → κ)
    (hkey : ∀ x, shownKey (shown x) = key x) (hdistinct : (xs.map key).Nodup)
    (hperm : (xs'.map shown).Perm (xs.map shown)) :
    ys'.map shown = ys.map shown := by
  have hpairwise {zs : List β} (hsorted : zs.Pairwise fun x y => key x ≤ key y) :
      (zs.map shown).Pairwise fun a b => shownKey a ≤ shownKey b :=
    List.pairwise_map.mpr (by simpa only [hkey] using hsorted)
  have hdistinct' : ((xs.map shown).map shownKey).Nodup := by
    simpa only [List.map_map, Function.comp_def, hkey] using hdistinct
  have hys := h.perm.map shown
  have hys' := (h'.perm.map shown).trans hperm
  refine List.Perm.eq_of_pairwise (fun a b ha hb hab hba => ?_) (hpairwise h'.sorted) (hpairwise h.sorted)
    (hys'.trans hys.symm)
  exact List.inj_on_of_nodup_map hdistinct' (hys'.mem_iff.mp ha) (hys.mem_iff.mp hb) (le_antisymm hab hba)

end MachineCloud.Order
