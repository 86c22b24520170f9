import Mathlib.Data.List.Induction
import Mathlib.Data.List.Nodup
import MachineCloud.Proofs.Machine.Updates

/-!
# A backend that keeps interfaces

The interfaces of a server are kept in an `Inventory`: there is at least one, and each has a key of its
own.  A client on it (`Backend.client`) lists them, and gives an interface that it updates exactly the
addresses that come with the call.  It notes the calls for updates, and may refuse some of them, which
then change nothing.

`pass_spec` says what a run of `ensureAllowed` does to such a backend.  Either it makes all the updates
that are needed, or it ends with the first of them that is refused.
-/

namespace MachineCloud.Machine

/-! ## Inventories -/

/-- The interfaces of a server. -/
@[ext]
structure Inventory where
  interfaces : List Interface
  nonempty : interfaces ≠ []
  nodup : (interfaces.map Interface.key).Nodup

/-- The interface after an update, which leaves it alone unless it is meant. -/
def Update.apply (u : Update) (i : Interface) : Interface :=
  if i.key = u.key then { i with addresses := u.addresses } else i

@[simp] theorem Update.key_apply (u : Update) (i : Interface) : (u.apply i).key = i.key := by
  rw [Update.apply]
  split <;> rfl

namespace Inventory

/-- The inventory after a change to each interface that keeps its key. -/
def change (inv : Inventory) (f : Interface → Interface) (hf : ∀ i, (f i).key = i.key) :
    Inventory where
  interfaces := inv.interfaces.map f
  nonempty := mt List.map_eq_nil_iff.mp inv.nonempty
  nodup := by
    have hkeys : (inv.interfaces.map f).map Interface.key = inv.interfaces.map Interface.key := by
      rw [List.map_map]
      exact List.map_congr_left fun i _ => hf i
    rw [hkeys]
    exact inv.nodup

/-- The inventory after an update. -/
def update (inv : Inventory) (u : Update) : Inventory := inv.change u.apply u.key_apply

/-- The inventory after some updates, one after the other. -/
def updateAll (inv : Inventory) (us : List Update) : Inventory := us.foldl update inv

/-- No two interfaces have the same key. -/
theorem eq_of_key_eq {inv : Inventory} {i j : Interface} (hi : i ∈ inv.interfaces)
    (hj : j ∈ inv.interfaces) (h : i.key = j.key) : i = j :=
  List.inj_on_of_nodup_map inv.nodup hi hj h

/-- The interface with a key. -/
def find? (inv : Inventory) (key : String × String) : Option Interface :=
  inv.interfaces.find? fun i => i.key = key

theorem key_of_find? {inv : Inventory} {key : String × String} {i : Interface}
    (h : inv.find? key = some i) : i.key = key := by
  rw [find?] at h
  simpa using List.find?_some h

/-- A change keeps the places of the interfaces. -/
theorem find?_of_interfaces_eq_map {inv inv' : Inventory} {f : Interface → Interface}
    (hf : ∀ i, (f i).key = i.key) (h : inv'.interfaces = inv.interfaces.map f)
    (key : String × String) : inv'.find? key = (inv.find? key).map f := by
  have hkey : (fun i : Interface => decide (i.key = key)) ∘ f = fun i => decide (i.key = key) := by
    funext i
    rw [Function.comp_apply, hf]
  rw [find?, h, List.find?_map, hkey]
  rfl

/-- If all updates for an interface agree on what becomes of it, then so do all of them together. -/
theorem interfaces_updateAll {inv : Inventory} {us : List Update} (f : Interface → Interface)
    (h : ∀ u ∈ us, ∀ i ∈ inv.interfaces, u.key = i.key →
      f i = { i with addresses := u.addresses }) :
    (inv.updateAll us).interfaces =
      inv.interfaces.map fun i => if i.key ∈ us.map Update.key then f i else i := by
  -- From the right: what the last update meets is either the interface or what became of it.
  induction us using List.reverseRecOn with
  | nil => simp [updateAll]
  | append_singleton us u ih =>
    have hus : ∀ u' ∈ us, ∀ i ∈ inv.interfaces, u'.key = i.key →
        f i = { i with addresses := u'.addresses } :=
      fun u' hu' => h u' (List.mem_append_left [u] hu')
    have hlast : (inv.updateAll (us ++ [u])).interfaces =
        (inv.updateAll us).interfaces.map u.apply := by
      rw [updateAll, List.foldl_concat]
      rfl
    rw [hlast, ih hus, List.map_map]
    apply List.map_congr_left
    intro i hi
    obtain ⟨addresses, hbefore⟩ : ∃ addresses,
        (if i.key ∈ us.map Update.key then f i else i) = { i with addresses := addresses } := by
      split
      · next hmem =>
        obtain ⟨u', hu', hkey⟩ := List.mem_map.mp hmem
        exact ⟨u'.addresses, hus u' hu' i hi hkey⟩
      · exact ⟨i.addresses, rfl⟩
    rw [Function.comp_apply, List.map_append, List.map_singleton]
    by_cases hkey : i.key = u.key
    · have hmem : i.key ∈ us.map Update.key ++ [u.key] :=
        List.mem_append_right _ (hkey ▸ List.mem_singleton_self u.key)
      rw [hbefore, if_pos hmem, h u List.mem_concat_self i hi hkey.symm]
      exact if_pos hkey
    · have hmem : i.key ∈ us.map Update.key ++ [u.key] ↔ i.key ∈ us.map Update.key := by
        simp [hkey]
      simp only [hmem, hbefore]
      exact if_neg hkey

end Inventory

/-! ## The updates of an inventory -/

section Needs

variable (r : Restriction) (wanted : List String) (inv : Inventory)

/-- The updates that the interfaces need. -/
def needs : List Update := updates r wanted inv.interfaces

/-- The inventory in which the interfaces allow the wanted addresses. -/
def allowed : Inventory := inv.change (allowing r wanted) (key_allowing r wanted)

variable {r wanted inv}

/-- Where no address is wanted, no update is needed. -/
theorem needs_nil : needs r [] inv = [] := by
  apply List.filterMap_eq_nil_iff.mpr
  intro i _
  have hsame : allowing r [] i = i := by
    rw [allowing]
    split <;> rfl
  rw [update?, hsame]
  exact if_pos rfl

/-- Each interface needs at most one update. -/
theorem nodup_needs : ((needs r wanted inv).map Update.key).Nodup :=
  (keys_updates_sublist r wanted inv.interfaces).nodup inv.nodup

/-- After some of the updates that are needed, just the interfaces that they are for allow the wanted
addresses. -/
theorem interfaces_updateAll_of_subset {us : List Update} (h : us ⊆ needs r wanted inv) :
    (inv.updateAll us).interfaces =
      inv.interfaces.map fun i =>
        if i.key ∈ us.map Update.key then allowing r wanted i else i := by
  apply Inventory.interfaces_updateAll
  intro u hu i hi hkey
  obtain ⟨j, hj, hupdate⟩ := List.mem_filterMap.mp (h hu)
  obtain ⟨hkey', hallowing⟩ := eq_of_update? r wanted hupdate
  obtain rfl := Inventory.eq_of_key_eq hi hj (hkey.symm.trans hkey')
  exact hallowing

/-- After all of them, all interfaces do. -/
theorem updateAll_needs : inv.updateAll (needs r wanted inv) = allowed r wanted inv := by
  apply Inventory.ext
  rw [interfaces_updateAll_of_subset (List.Subset.refl _)]
  apply List.map_congr_left
  intro i hi
  split
  · rfl
  · next hkey =>
    cases hupdate : update? r wanted i with
    | none => exact (allowing_of_update?_eq_none r wanted hupdate).symm
    | some u =>
      have hu : u ∈ needs r wanted inv := List.mem_filterMap.mpr ⟨i, hi, hupdate⟩
      have hmem : i.key ∈ (needs r wanted inv).map Update.key :=
        (eq_of_update? r wanted hupdate).1 ▸ List.mem_map_of_mem hu
      exact absurd hmem hkey

end Needs

/-! ## Runs -/

/-- A backend with the calls for updates that it has got, oldest first. -/
structure Backend where
  inventory : Inventory
  calls : List Update := []

namespace Backend

/-- What a call for an update comes to.  It is noted; then it fails if the backend refuses the call with
its number, and is made otherwise. -/
def take (refuses : Nat → Option Failure) (u : Update) : EStateM Failure Backend Unit := fun s =>
  match refuses s.calls.length with
  | some failure => .error failure { s with calls := s.calls ++ [u] }
  | none => .ok () { inventory := s.inventory.update u, calls := s.calls ++ [u] }

theorem run_take_of_refused {refuses : Nat → Option Failure} {s : Backend} {u : Update}
    {failure : Failure} (h : refuses s.calls.length = some failure) :
    (take refuses u).run s = .error failure { s with calls := s.calls ++ [u] } := by
  change take refuses u s = _
  rw [take, h]

theorem run_take_of_taken {refuses : Nat → Option Failure} {s : Backend} {u : Update}
    (h : refuses s.calls.length = none) :
    (take refuses u).run s =
      .ok () { inventory := s.inventory.update u, calls := s.calls ++ [u] } := by
  change take refuses u s = _
  rw [take, h]

/-- A client whose interfaces are those of a backend.  All else is left to another client. -/
def client (base : Client (EStateM Failure Backend)) (refuses : Nat → Option Failure) :
    Client (EStateM Failure Backend) where
  __ := base
  listNics _ _ _ := do return some ((← get).inventory.interfaces.map Interface.toNic)
  updateNic _ _ network nic addresses :=
    match network, nic, addresses with
    | .str network, .str id, .list addresses => do
      take refuses ⟨network, id, addresses⟩
      return some { id := nic, networkId := .str network, allowedAddresses := .list addresses }
    | _, _, _ => throw (.of (.misfit .segment))

variable (base : Client (EStateM Failure Backend)) (refuses : Nat → Option Failure)
  (project region server : Value)

theorem send_eq_take (u : Update) : u.send (client base refuses) project region = take refuses u := by
  change (fun _ => ()) <$> (take refuses u >>= fun _ => pure _) = take refuses u
  rw [map_bind]
  simp only [map_pure]
  exact bind_pure_unit

/-- The ways in which updates that are made one after the other can go. -/
inductive Carried (us : List Update) (s : Backend) : EStateM.Result Failure Backend Unit → Prop
  /-- All are made. -/
  | completed (htaken : ∀ n < us.length, refuses (s.calls.length + n) = none) :
      Carried us s (.ok () ⟨s.inventory.updateAll us, s.calls ++ us⟩)
  /-- One is refused, and none is called for after it. -/
  | interrupted {k : Nat} {failure : Failure} (hk : k < us.length)
      (htaken : ∀ n < k, refuses (s.calls.length + n) = none)
      (hrefused : refuses (s.calls.length + k) = some failure) :
      Carried us s
        (.error failure ⟨s.inventory.updateAll (us.take k), s.calls ++ us.take (k + 1)⟩)

/-- One more update before the others, which is made. -/
theorem Carried.cons {refuses : Nat → Option Failure} {u : Update} {us : List Update} {s : Backend}
    {result : EStateM.Result Failure Backend Unit}
    (h : Carried refuses us ⟨s.inventory.update u, s.calls ++ [u]⟩ result)
    (hu : refuses s.calls.length = none) : Carried refuses (u :: us) s result := by
  have hnumber (n : Nat) : (s.calls ++ [u]).length + n = s.calls.length + (n + 1) := by
    rw [List.length_append, List.length_singleton, Nat.add_assoc, Nat.add_comm 1]
  have htaken {k : Nat} (h : ∀ n < k, refuses ((s.calls ++ [u]).length + n) = none) :
      ∀ n < k + 1, refuses (s.calls.length + n) = none := by
    intro n hn
    cases n with
    | zero => exact hu
    | succ n => exact hnumber n ▸ h n (Nat.lt_of_succ_lt_succ hn)
  cases h with
  | completed hrest =>
    have hcompleted : Carried refuses (u :: us) s _ := .completed (htaken hrest)
    rw [← List.singleton_append, ← List.append_assoc] at hcompleted
    exact hcompleted
  | @interrupted k failure hk hbefore hrefused =>
    have hinterrupted : Carried refuses (u :: us) s _ :=
      .interrupted (Nat.succ_lt_succ hk) (htaken hbefore) (hnumber k ▸ hrefused)
    rw [List.take_succ_cons, List.take_succ_cons, ← List.singleton_append (l := us.take (k + 1)),
      ← List.append_assoc] at hinterrupted
    exact hinterrupted

/-- Updates that are made one after the other go one of these ways. -/
theorem forM_spec (us : List Update) (s : Backend) :
    Carried refuses us s ((forM us (Update.send (client base refuses) project region)).run s) := by
  induction us generalizing s with
  | nil =>
    have hcompleted : Carried refuses [] s _ := .completed nofun
    rw [List.append_nil] at hcompleted
    exact hcompleted
  | cons u rest ih =>
    rw [List.forM_cons, EStateM.run_bind, send_eq_take]
    cases hrefuses : refuses s.calls.length with
    | some failure =>
      rw [run_take_of_refused hrefuses]
      exact .interrupted (k := 0) (Nat.zero_lt_succ _) nofun hrefuses
    | none =>
      rw [run_take_of_taken hrefuses]
      exact (ih ⟨s.inventory.update u, s.calls ++ [u]⟩).cons hrefuses

/-- What a run of `ensureAllowed` comes to, the inventory after it, and its calls for updates. -/
structure Pass where
  result : Except Failure Nat
  inventory : Inventory
  calls : List Update

variable (r : Restriction) (wanted : List String) (inv : Inventory)

/-- A run of `ensureAllowed`. -/
def pass : Pass :=
  match (ensureAllowed (client base refuses) project region server (.list (wanted.map .str))
    r.toScope).run ⟨inv, []⟩ with
  | .ok n s => ⟨.ok n, s.inventory, s.calls⟩
  | .error failure s => ⟨.error failure, s.inventory, s.calls⟩

/-- A run makes the updates that are needed, and counts them. -/
theorem run_ensureAllowed (s : Backend) :
    (ensureAllowed (client base refuses) project region server (.list (wanted.map .str))
      r.toScope).run s =
      (do
        forM (needs r wanted s.inventory) (Update.send (client base refuses) project region)
        return (needs r wanted s.inventory).length : EStateM Failure Backend Nat).run s := by
  cases wanted with
  | nil =>
    rw [needs_nil]
    rfl
  | cons first rest =>
    obtain ⟨i, is, hinterfaces⟩ := List.exists_cons_of_ne_nil s.inventory.nonempty
    rw [needs, ← updateAll_toNic, hinterfaces]
    have hlist : ((client base refuses).listNics project region server).run s =
        .ok (some (s.inventory.interfaces.map Interface.toNic)) s := rfl
    have htruthy : (Value.list ((first :: rest).map .str)).isTruthy = true := rfl
    rw [ensureAllowed, htruthy, Bool.not_true, if_neg Bool.false_ne_true, EStateM.run_bind, hlist,
      hinterfaces]
    rfl

/-- The ways in which a run can go. -/
inductive Passing : Pass → Prop
  /-- All updates that are needed are made. -/
  | completed (htaken : ∀ n < (needs r wanted inv).length, refuses n = none) :
      Passing ⟨.ok (needs r wanted inv).length, allowed r wanted inv, needs r wanted inv⟩
  /-- One is refused, and ends the run. -/
  | interrupted {k : Nat} {failure : Failure} (hk : k < (needs r wanted inv).length)
      (htaken : ∀ n < k, refuses n = none) (hrefused : refuses k = some failure) :
      Passing ⟨.error failure, inv.updateAll ((needs r wanted inv).take k),
        (needs r wanted inv).take (k + 1)⟩

/-- A run goes one of these ways. -/
theorem pass_spec :
    Passing refuses r wanted inv (pass base refuses project region server r wanted inv) := by
  rw [pass, run_ensureAllowed, EStateM.run_bind]
  have hnumber (n : Nat) : (⟨inv, []⟩ : Backend).calls.length + n = n := Nat.zero_add n
  have hcarried := forM_spec base refuses project region (needs r wanted inv) ⟨inv, []⟩
  generalize (forM (needs r wanted inv) _ : EStateM Failure Backend Unit).run _ = result at hcarried ⊢
  cases hcarried with
  | completed htaken =>
    have hcompleted : Passing refuses r wanted inv _ :=
      .completed fun n hn => hnumber n ▸ htaken n hn
    rw [← updateAll_needs] at hcompleted
    exact hcompleted
  | @interrupted k failure hk htaken hrefused =>
    rw [hnumber k] at hrefused
    exact .interrupted hk (fun n hn => hnumber n ▸ htaken n hn) hrefused

end Backend

end MachineCloud.Machine
