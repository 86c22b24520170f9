/-!
# Ordered maps

A map as the list of its entries in the order in which the keys first came.  Putting a value under a
key that is there keeps the key's place.
-/

namespace MachineCloud

/-- The entries of a map, oldest key first. -/
abbrev Entries (α : Type) := List (String × α)

namespace Entries

variable {α β : Type}

def get? (key : String) : Entries α → Option α
  | [] => none
  | (k, v) :: rest => if k = key then some v else get? key rest

/-- Puts a value under a key: in place if the key is there, at the end otherwise. -/
def put (key : String) (value : α) : Entries α → Entries α
  | [] => [(key, value)]
  | (k, v) :: rest => if k = key then (k, value) :: rest else (k, v) :: put key value rest

def putAll (m : Entries α) (pairs : List (String × α)) : Entries α :=
  pairs.foldl (fun acc p => acc.put p.1 p.2) m

/-- The map that pairs describe: a repeated key keeps its first place and takes the last value. -/
def ofPairs (pairs : List (String × α)) : Entries α := putAll [] pairs

def keys (m : Entries α) : List String := m.map (·.1)

theorem get?_put (m : Entries α) (key key' : String) (v : α) :
    (m.put key v).get? key' = if key = key' then some v else m.get? key' := by
  induction m with
  | nil => simp [put, get?]
  | cons p rest ih =>
    obtain ⟨k, w⟩ := p
    simp only [put]
    split
    · next h => subst h; simp only [get?]; split <;> rfl
    · next h =>
      simp only [get?, ih]
      split
      · next hk => rw [if_neg (fun e => h (hk.trans e.symm))]
      · rfl

theorem keys_put (m : Entries α) (key : String) (v : α) :
    (m.put key v).keys = if key ∈ m.keys then m.keys else m.keys ++ [key] := by
  induction m with
  | nil => simp [put, keys]
  | cons p rest ih =>
    obtain ⟨k, w⟩ := p
    simp only [put]
    split
    · next h => subst h; simp [keys]
    · next h =>
      have h' : ¬ key = k := fun e => h e.symm
      simp only [keys, List.map_cons, List.mem_cons, h', false_or] at ih ⊢
      rw [ih]
      split <;> simp_all

end Entries

end MachineCloud
