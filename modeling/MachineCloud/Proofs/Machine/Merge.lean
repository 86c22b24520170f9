import MachineCloud.Machine.Addresses

/-!
# Merging addresses

Merging wanted addresses into those of an interface only adds at the end.  What was there stays where
it was (`prefix_merge`), so the result is no longer exactly if nothing was missing
(`merge_eq_self_iff`).  Merging in two parts is the same as merging at once (`merge_append`), and what
has been merged once is not missing again (`merge_merge_self`).  What is added are the texts that are
missing, each once, where it first comes among the wanted ones (`merge_eq_append_missing`).

Whether an address is there is decided by `Value.same`.  For texts that is plain equality, so the
wanted addresses are texts wherever it matters.
-/

namespace MachineCloud

/-- Only a text is the same as a text. -/
theorem Value.same_str_iff {s : String} {v : Value} : (Value.str s).same v = true ↔ v = .str s := by
  cases v with
  | str t =>
    change (s == t) = true ↔ Value.str t = .str s
    rw [beq_iff_eq, Value.str.injEq, eq_comm]
  | null | bool | int | float | list | map => exact iff_of_false nofun nofun

theorem Value.same_str_right_iff {s : String} {v : Value} : v.same (.str s) = true ↔ v = .str s := by
  cases v with
  | str t =>
    change (t == s) = true ↔ Value.str t = .str s
    rw [beq_iff_eq, Value.str.injEq]
  | null | bool | int | float | list | map => exact iff_of_false nofun nofun

/-- A text is among values exactly if one of them is the same. -/
theorem Value.any_same_str {s : String} {vs : List Value} :
    vs.any (Value.str s).same = true ↔ .str s ∈ vs := by
  rw [List.any_eq_true]
  constructor
  · rintro ⟨v, hv, hsame⟩
    exact same_str_iff.mp hsame ▸ hv
  · intro h
    exact ⟨.str s, h, same_str_iff.mpr rfl⟩

/-- The text that a value is, if it is one. -/
def Value.str? : Value → Option String
  | .str s => some s
  | _ => none

theorem Value.str?_eq_some_iff {v : Value} {s : String} : v.str? = some s ↔ v = .str s := by
  cases v with
  | str t => rw [str?, Option.some.injEq, Value.str.injEq]
  | null | bool | int | float | list | map => exact iff_of_false nofun nofun

namespace Machine

/-! ## One address -/

theorem prefix_addMissing (addresses : List Value) (a : Value) :
    addresses <+: addMissing addresses a := by
  rw [addMissing]
  split
  · exact List.prefix_refl addresses
  · exact List.prefix_append addresses [a]

/-- A text that is added is there then, and nothing else is. -/
theorem mem_addMissing {addresses : List Value} {s : String} {v : Value} :
    v ∈ addMissing addresses (.str s) ↔ v ∈ addresses ∨ v = .str s := by
  rw [addMissing]
  split
  · next h =>
    have hmem : v = .str s → v ∈ addresses := by
      rintro rfl
      exact Value.any_same_str.mp h
    exact (or_iff_left_of_imp hmem).symm
  · rw [List.mem_append, List.mem_singleton]

theorem addMissing_of_mem {addresses : List Value} {s : String} (h : .str s ∈ addresses) :
    addMissing addresses (.str s) = addresses :=
  if_pos (Value.any_same_str.mpr h)

/-! ## All wanted addresses -/

theorem merge_append (addresses wanted more : List Value) :
    merge addresses (wanted ++ more) = merge (merge addresses wanted) more :=
  List.foldl_append

theorem prefix_merge (addresses wanted : List Value) : addresses <+: merge addresses wanted := by
  induction wanted generalizing addresses with
  | nil => exact List.prefix_refl addresses
  | cons a rest ih => exact (prefix_addMissing addresses a).trans (ih (addMissing addresses a))

/-- Nothing was missing exactly if the merged list is no longer. -/
theorem merge_eq_self_iff {addresses wanted : List Value} :
    (merge addresses wanted).length = addresses.length ↔ merge addresses wanted = addresses :=
  ⟨fun h => ((prefix_merge addresses wanted).eq_of_length h.symm).symm, congrArg List.length⟩

theorem mem_merge {addresses : List Value} {wanted : List String} {v : Value} :
    v ∈ merge addresses (wanted.map .str) ↔ v ∈ addresses ∨ v ∈ wanted.map .str := by
  induction wanted generalizing addresses with
  | nil => simp [merge]
  | cons first rest ih =>
    rw [List.map_cons, merge, List.foldl_cons]
    change v ∈ merge (addMissing addresses (.str first)) (rest.map .str) ↔ _
    rw [ih, mem_addMissing, List.mem_cons, or_assoc]

/-- Addresses that are all there leave a list as it is. -/
theorem merge_of_subset {addresses : List Value} {wanted : List String}
    (h : ∀ s ∈ wanted, .str s ∈ addresses) : merge addresses (wanted.map .str) = addresses := by
  induction wanted with
  | nil => rfl
  | cons first rest ih =>
    rw [List.map_cons, merge, List.foldl_cons, addMissing_of_mem (h first List.mem_cons_self)]
    exact ih fun s hs => h s (List.mem_cons_of_mem first hs)

/-- What has been merged once is not missing again. -/
theorem merge_merge_self (addresses : List Value) (wanted : List String) :
    merge (merge addresses (wanted.map .str)) (wanted.map .str) =
      merge addresses (wanted.map .str) :=
  merge_of_subset fun _ hs => mem_merge.mpr (.inr (List.mem_map_of_mem hs))

/-! ## What is missing -/

/-- The texts among values. -/
def texts (vs : List Value) : List String := vs.filterMap Value.str?

/-- Whether one of the wanted addresses is missing. -/
def lacks (addresses : List Value) (wanted : List String) : Bool :=
  wanted.any fun s => s ∉ texts addresses

/-- The wanted addresses that are missing, each once, in the order in which they first come. -/
def missing (addresses : List Value) (wanted : List String) : List String :=
  (wanted.filter fun s => s ∉ texts addresses).eraseDups

theorem mem_texts {vs : List Value} {s : String} : s ∈ texts vs ↔ .str s ∈ vs := by
  rw [texts, List.mem_filterMap]
  constructor
  · rintro ⟨v, hv, hs⟩
    exact Value.str?_eq_some_iff.mp hs ▸ hv
  · intro h
    exact ⟨.str s, h, rfl⟩

theorem missing_cons_of_mem {addresses : List Value} {s : String} (h : s ∈ texts addresses)
    (rest : List String) : missing addresses (s :: rest) = missing addresses rest := by
  rw [missing, List.filter_cons_of_neg (by simpa using h), missing]

/-- Once an address has been added it is not missing any more. -/
theorem missing_cons_of_notMem {addresses : List Value} {s : String} (h : s ∉ texts addresses)
    (rest : List String) :
    missing addresses (s :: rest) = s :: missing (addresses ++ [.str s]) rest := by
  have htexts : texts (addresses ++ [.str s]) = texts addresses ++ [s] := by
    rw [texts, List.filterMap_append]
    rfl
  rw [missing, List.filter_cons_of_pos (by simpa using h), List.eraseDups_cons, List.filter_filter,
    missing, htexts]
  congr 2
  apply List.filter_congr
  intro t _
  rw [Bool.eq_iff_iff]
  simp [and_comm]

/-- Merging puts what is missing at the end. -/
theorem merge_eq_append_missing (addresses : List Value) (wanted : List String) :
    merge addresses (wanted.map .str) = addresses ++ (missing addresses wanted).map .str := by
  induction wanted generalizing addresses with
  | nil => exact (List.append_nil addresses).symm
  | cons s rest ih =>
    rw [List.map_cons, merge, List.foldl_cons]
    change merge (addMissing addresses (.str s)) (rest.map .str) = _
    by_cases h : s ∈ texts addresses
    · rw [addMissing_of_mem (mem_texts.mp h), ih, missing_cons_of_mem h]
    · have hadd : addMissing addresses (.str s) = addresses ++ [.str s] :=
        if_neg fun hany => h (mem_texts.mpr (Value.any_same_str.mp hany))
      rw [hadd, ih, missing_cons_of_notMem h, List.map_cons, List.append_assoc]
      rfl

/-- Merging adds nothing exactly if nothing is missing. -/
theorem length_merge_eq_iff {addresses : List Value} {wanted : List String} :
    (merge addresses (wanted.map .str)).length = addresses.length ↔
      lacks addresses wanted = false := by
  have hlacks : lacks addresses wanted = false ↔ ∀ s ∈ wanted, .str s ∈ addresses := by
    simp only [lacks, List.any_eq_false, decide_eq_true_eq, mem_texts,
      Classical.not_not]
  rw [merge_eq_self_iff, hlacks]
  constructor
  · intro h s hs
    rw [← h]
    exact mem_merge.mpr (.inr (List.mem_map_of_mem hs))
  · exact merge_of_subset

end Machine

end MachineCloud
