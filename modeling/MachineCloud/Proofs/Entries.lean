import Mathlib.Data.List.Induction
import MachineCloud.Proofs.Value.Equality

/-!
# Maps from pairs

Pairs are put into a map one after the other, so that the last pair with a key decides what is under
it (`Entries.get?_putAll`).  That makes no difference if they become a map of their own first, in which
no key comes twice (`Entries.get?_putAll_of_nodup`).
-/

namespace MachineCloud

namespace Entries

variable {α β : Type}

/-- Whether two maps have the same under some keys. -/
def AgreeOn (keys : List String) (m m' : Entries α) : Prop :=
  ∀ key ∈ keys, m.get? key = m'.get? key

theorem putAll_concat (m : Entries α) (pairs : List (String × α)) (p : String × α) :
    m.putAll (pairs ++ [p]) = (m.putAll pairs).put p.1 p.2 := by
  rw [putAll, List.foldl_append]
  rfl

theorem ofPairs_concat (pairs : List (String × α)) (p : String × α) :
    ofPairs (pairs ++ [p]) = (ofPairs pairs).put p.1 p.2 := putAll_concat [] pairs p

theorem mem_or_eq_of_mem_put {m : Entries α} {key : String} {v : α} {p : String × α}
    (h : p ∈ m.put key v) : p ∈ m ∨ p = (key, v) := by
  induction m with
  | nil => exact .inr (List.mem_singleton.mp h)
  | cons q rest ih =>
    rw [put] at h
    split at h
    · next hkey =>
      rcases List.mem_cons.mp h with heq | hmem
      · exact .inr (by rw [heq, hkey])
      · exact .inl (List.mem_cons_of_mem _ hmem)
    · rcases List.mem_cons.mp h with rfl | hmem
      · exact .inl List.mem_cons_self
      · exact (ih hmem).imp_left (List.mem_cons_of_mem _)

/-- What is in the map that pairs describe is among the pairs. -/
theorem mem_of_mem_ofPairs {pairs : List (String × α)} {p : String × α} (h : p ∈ ofPairs pairs) :
    p ∈ pairs := by
  induction pairs using List.reverseRecOn with
  | nil => cases h
  | append_singleton pairs q ih =>
    rw [ofPairs_concat] at h
    rcases mem_or_eq_of_mem_put h with hmem | rfl
    · exact List.mem_append_left _ (ih hmem)
    · exact List.mem_append_right _ List.mem_cons_self

theorem map_put (f : α → β) (m : Entries α) (key : String) (v : α) :
    put key (f v) (m.map fun p => (p.1, f p.2)) = (m.put key v).map fun p => (p.1, f p.2) := by
  induction m with
  | nil => rfl
  | cons p rest ih =>
    simp only [List.map_cons, put]
    split
    · rfl
    · rw [ih, List.map_cons]

/-- No key comes twice in the map that pairs describe. -/
theorem nodup_ofPairs (pairs : List (String × α)) : (ofPairs pairs).keys.Nodup := by
  induction pairs using List.reverseRecOn with
  | nil => exact List.nodup_nil
  | append_singleton pairs p ih =>
    rw [ofPairs_concat, keys_put]
    split
    · exact ih
    · next hnew =>
      rw [List.nodup_append]
      refine ⟨ih, List.nodup_cons.mpr ⟨List.not_mem_nil, List.nodup_nil⟩, ?_⟩
      rintro key hkey _ hsame rfl
      exact hnew (List.mem_singleton.mp hsame ▸ hkey)

theorem put_of_notMem {m : Entries α} {key : String} (h : key ∉ m.keys) (v : α) :
    m.put key v = m ++ [(key, v)] := by
  induction m with
  | nil => rfl
  | cons p rest ih =>
    obtain ⟨hkey, hrest⟩ := not_or.mp (mt List.mem_cons.mpr h)
    rw [put, if_neg (Ne.symm hkey), ih hrest]
    rfl

theorem put_ne_nil (m : Entries α) (key : String) (v : α) : m.put key v ≠ [] := by
  cases m with
  | nil => exact List.cons_ne_nil _ _
  | cons p rest =>
    rw [put]
    split <;> exact List.cons_ne_nil _ _

theorem ofPairs_ne_nil {pairs : List (String × α)} (h : pairs ≠ []) : ofPairs pairs ≠ [] := by
  rw [← List.dropLast_append_getLast h, ofPairs_concat]
  exact put_ne_nil _ _ _

/-- Pairs among which no key comes twice are a map as they stand. -/
theorem ofPairs_of_nodup {pairs : Entries α} (h : pairs.keys.Nodup) : ofPairs pairs = pairs := by
  induction pairs using List.reverseRecOn with
  | nil => rfl
  | append_singleton pairs p ih =>
    rw [keys, List.map_append, List.nodup_append] at h
    obtain ⟨hpairs, -, hdisjoint⟩ := h
    have hnew : p.1 ∉ Entries.keys pairs := fun hmem => hdisjoint _ hmem _ List.mem_cons_self rfl
    rw [ofPairs_concat, ih hpairs, put_of_notMem hnew]

/-- The last pair with a key decides what is under it, and without one nothing changes. -/
theorem get?_putAll (m : Entries α) (pairs : List (String × α)) (key : String) :
    (m.putAll pairs).get? key = ((ofPairs pairs).get? key).or (m.get? key) := by
  induction pairs using List.reverseRecOn with
  | nil => rfl
  | append_singleton pairs p ih =>
    rw [ofPairs_concat, putAll_concat, get?_put, get?_put, ih]
    split <;> rfl

/-- If no key comes twice, every pair decides. -/
theorem get?_putAll_of_nodup {q : Entries α} (hq : q.keys.Nodup) (m : Entries α) (key : String) :
    (m.putAll q).get? key = (q.get? key).or (m.get? key) := by
  induction q generalizing m with
  | nil => rfl
  | cons p rest ih =>
    rw [keys, List.map_cons, List.nodup_cons] at hq
    change ((m.put p.1 p.2).putAll rest).get? key = _
    rw [ih hq.2, get?_put, get?]
    split
    · next hkey =>
      rw [get?_eq_none_iff.mpr (hkey ▸ hq.1)]
      rfl
    · rfl

end Entries

end MachineCloud
