import Mathlib.Data.List.Perm.Subperm
import Mathlib.Data.Option.Basic
import Mathlib.Tactic.MkIffOfInductiveProp
import MachineCloud.Value

/-!
# Equality of values

Two objects are equal if they have the same members, in whatever order.  About the rest one may differ:
`Identical` keeps all scalars apart, while `same`, by which the program compares, takes `1` for `1.0` and
for `true`.  An `Equality` is any relation that treats texts, booleans, integers, lists and objects as
both of these do, and results about payloads are stated for all of them.
-/

namespace MachineCloud

/-! ## Maps by their keys -/

namespace Entries

variable {α : Type} {m : Entries α} {key : String} {v : α}

theorem mem_of_get? (h : m.get? key = some v) : (key, v) ∈ m := by
  induction m with
  | nil => cases h
  | cons p rest ih =>
    rw [get?] at h
    split at h
    · next hkey =>
      obtain rfl := hkey
      obtain rfl := Option.some.inj h
      exact List.mem_cons_self
    · exact List.mem_cons_of_mem _ (ih h)

theorem get?_eq_none_iff : m.get? key = none ↔ key ∉ m.keys := by
  induction m with
  | nil => exact iff_of_true rfl List.not_mem_nil
  | cons p rest ih =>
    rw [get?]
    split
    · next hkey =>
      exact iff_of_false (Option.some_ne_none _) fun hnot => hnot (hkey ▸ List.mem_cons_self)
    · next hkey =>
      rw [ih, keys, keys, List.map_cons, List.mem_cons, not_or]
      exact ⟨fun hrest => ⟨fun heq => hkey heq.symm, hrest⟩, And.right⟩

theorem mem_keys_of_get? (h : m.get? key = some v) : key ∈ m.keys :=
  List.mem_map_of_mem (mem_of_get? h)

/-- In a map that has no key twice, every entry is found. -/
theorem get?_of_mem (hnodup : m.keys.Nodup) (h : (key, v) ∈ m) : m.get? key = some v := by
  induction m with
  | nil => cases h
  | cons p rest ih =>
    rw [keys, List.map_cons, List.nodup_cons] at hnodup
    rw [get?]
    rcases List.mem_cons.mp h with rfl | hrest
    · rw [if_pos rfl]
    · have hne : p.1 ≠ key := fun heq => hnodup.1 (heq ▸ List.mem_map_of_mem hrest)
      rw [if_neg hne, ih hnodup.2 hrest]

theorem get?_map {β : Type} (f : α → β) (m : Entries α) (key : String) :
    get? key (m.map fun p => (p.1, f p.2)) = (m.get? key).map f := by
  induction m with
  | nil => rfl
  | cons p rest ih =>
    simp only [List.map_cons, get?]
    split
    · rfl
    · exact ih

end Entries

namespace Value

/-! ## Equalities -/

/-- A notion of equality of values.  It is free in what it makes of null, of numbers that are no
integers, and of values of different kinds. -/
structure Equality where
  rel : Value → Value → Prop
  bool (a b : Bool) : rel (.bool a) (.bool b) ↔ a = b
  int (m n : Int) : rel (.int m) (.int n) ↔ m = n
  str (s t : String) : rel (.str s) (.str t) ↔ s = t
  list (xs ys : List Value) : rel (.list xs) (.list ys) ↔ List.Forall₂ rel xs ys
  map {xs ys : Entries Value} (hxs : xs.keys.Nodup) (hys : ys.keys.Nodup) :
    rel (.map xs) (.map ys) ↔ ∀ key, Option.Rel rel (xs.get? key) (ys.get? key)

/-- Whether two values are the same but for the order of members. -/
inductive Identical : Value → Value → Prop
  | null : Identical .null .null
  | bool (b : Bool) : Identical (.bool b) (.bool b)
  | int (n : Int) : Identical (.int n) (.int n)
  | float (x : Binary64) : Identical (.float x) (.float x)
  | str (s : String) : Identical (.str s) (.str s)
  | list {xs ys : List Value} (hitems : List.Forall₂ Identical xs ys) :
      Identical (.list xs) (.list ys)
  | map {xs ys : Entries Value}
      (hmembers : ∀ key, Option.Rel Identical (xs.get? key) (ys.get? key)) :
      Identical (.map xs) (.map ys)

/-- Identity up to the order of members, the finest of the equalities of JSON values. -/
def Equality.identical : Equality where
  rel := Identical
  bool a b := ⟨fun h => by cases h; rfl, fun h => h ▸ .bool a⟩
  int m n := ⟨fun h => by cases h; rfl, fun h => h ▸ .int m⟩
  str s t := ⟨fun h => by cases h; rfl, fun h => h ▸ .str s⟩
  list xs ys := ⟨fun h => by cases h with | list hitems => exact hitems, .list⟩
  map _ _ := ⟨fun h => by cases h with | map hmembers => exact hmembers, .map⟩

/-! ## The comparison of the program -/

theorem sameItems_iff {xs ys : List Value} :
    sameItems xs ys = true ↔ List.Forall₂ (fun x y => same x y = true) xs ys := by
  induction xs generalizing ys with
  | nil => cases ys <;> simp [sameItems]
  | cons x xs ih => cases ys <;> simp [sameItems, ih]

theorem sameEntries_iff {xs ys : Entries Value} :
    sameEntries xs ys = true ↔
      ∀ p ∈ xs, ∃ w, ys.get? p.1 = some w ∧ same p.2 w = true := by
  induction xs with
  | nil => simp [sameEntries]
  | cons p xs ih =>
    rw [sameEntries, Bool.and_eq_true, ih, List.forall_mem_cons]
    refine and_congr_left fun _ => ?_
    cases Entries.get? p.1 ys <;> simp

/-- Maps of one length that have no key twice have the same keys as soon as one has all those of the
other. -/
theorem get?_eq_none_of_keys_subset {xs ys : Entries Value} (hxs : xs.keys.Nodup)
    (hlength : xs.length = ys.length) (hsubset : xs.keys ⊆ ys.keys) {key : String}
    (h : xs.get? key = none) : ys.get? key = none := by
  have hkeys : ys.keys.length ≤ xs.keys.length := by simp [Entries.keys, hlength]
  have hperm := (List.subperm_of_subset hxs hsubset).perm_of_length_le hkeys
  rw [Entries.get?_eq_none_iff] at h ⊢
  exact fun hmem => h (hperm.mem_iff.mpr hmem)

/-- The program compares maps by their members. -/
theorem same_map_iff {xs ys : Entries Value} (hxs : xs.keys.Nodup) (hys : ys.keys.Nodup) :
    same (.map xs) (.map ys) = true ↔
      ∀ key, Option.Rel (fun v w => same v w = true) (xs.get? key) (ys.get? key) := by
  rw [same, Bool.and_eq_true, beq_iff_eq, sameEntries_iff]
  constructor
  · rintro ⟨hlength, hentries⟩ key
    have hsubset : xs.keys ⊆ ys.keys := by
      intro key hkey
      obtain ⟨p, hp, rfl⟩ := List.mem_map.mp hkey
      obtain ⟨w, hw, -⟩ := hentries p hp
      exact Entries.mem_keys_of_get? hw
    cases hx : xs.get? key with
    | none =>
      rw [get?_eq_none_of_keys_subset hxs hlength hsubset hx]
      exact .none
    | some v =>
      obtain ⟨w, hw, hsame⟩ := hentries _ (Entries.mem_of_get? hx)
      rw [hw]
      exact .some hsame
  · intro hmembers
    constructor
    · have hkeys : xs.keys.Perm ys.keys := by
        refine (List.perm_ext_iff_of_nodup hxs hys).mpr fun key => not_iff_not.mp ?_
        rw [← Entries.get?_eq_none_iff, ← Entries.get?_eq_none_iff]
        have hkey := hmembers key
        generalize xs.get? key = v?, ys.get? key = w? at hkey
        cases hkey <;> simp
      simpa [Entries.keys] using hkeys.length_eq
    · intro p hp
      have hkey := hmembers p.1
      rw [Entries.get?_of_mem hxs hp] at hkey
      generalize hw : ys.get? p.1 = w? at hkey
      cases hkey with
      | some hsame => exact ⟨_, rfl, hsame⟩

/-- The comparison of the program is an equality. -/
def Equality.comparison : Equality where
  rel v w := same v w = true
  bool a b := by cases a <;> cases b <;> decide
  int m n := by
    have hsame : same (.int m) (.int n) = (m == n) := by rw [same]; rfl
    rw [hsame, beq_iff_eq]
  str s t := by simp [same]
  list xs ys := by rw [same, sameItems_iff]
  map := same_map_iff

end Value

end MachineCloud
