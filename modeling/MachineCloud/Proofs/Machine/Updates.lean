import Mathlib.Data.List.Basic
import MachineCloud.Proofs.Machine.Merge

/-!
# The updates that interfaces need

For interfaces whose identifiers are texts, and a restriction to texts, what a pass over them does is
settled before its first update: `updates` lists the calls that it is going to make.  So the pass is
that list carried out one call after the other (`updateAll_toNic`), in any monad, whatever the calls
come to.

An interface after its update needs none (`update?_allowing`).
-/

namespace MachineCloud

/-- An interface as a backend keeps it. -/
structure Interface where
  network : String
  id : String
  addresses : List Value
  ipv4 : Value := .null
  mac : Value := .null

namespace Interface

/-- What tells an interface from the others of its server. -/
def key (i : Interface) : String × String := (i.network, i.id)

/-- The interface as clients give it. -/
def toNic (i : Interface) : Nic where
  id := .str i.id
  networkId := .str i.network
  allowedAddresses := .list i.addresses
  ipv4 := i.ipv4
  mac := i.mac

end Interface

namespace Machine

/-! ## Restrictions -/

/-- A restriction to a network, to interfaces by their identifiers, to both or to neither. -/
structure Restriction where
  network : String := ""
  ids : Option (List String) := none

namespace Restriction

/-- The identifiers that are listed. -/
def listed (r : Restriction) : List String := r.ids.getD []

/-- The restriction as a scope. -/
def toScope (r : Restriction) : Scope where
  networkId := .str r.network
  nicIds := match r.ids with
    | none => .null
    | some ids => .list (ids.map .str)

/-- Whether an interface is in the network or is listed, or else neither is given. -/
def admits (r : Restriction) (i : Interface) : Bool :=
  (r.network = "" && r.listed.isEmpty) || i.network = r.network || i.id ∈ r.listed

/-- A list of identifiers that is absent counts as an empty one. -/
theorem nicIds_orElse (r : Restriction) :
    r.toScope.nicIds.orElse (.list []) = .list (r.listed.map .str) := by
  obtain ⟨network, ids⟩ := r
  rcases ids with _ | _ | ⟨first, rest⟩ <;> rfl

theorem isRestricted_toScope (r : Restriction) :
    r.toScope.isRestricted = !(r.network = "" && r.listed.isEmpty) := by
  obtain ⟨network, ids⟩ := r
  have hnetwork : (Value.str network).isTruthy = !decide (network = "") := by simp [Value.isTruthy]
  rw [Scope.isRestricted, Bool.not_and, ← hnetwork]
  rcases ids with _ | _ | ⟨first, rest⟩ <;> rfl

/-- Whether a client's interface is in the network or is listed, or else neither is given. -/
def touches (r : Restriction) (nic : Nic) : Bool :=
  (r.network = "" && r.listed.isEmpty) || nic.networkId.str? = some r.network ||
    nic.id.str?.any (· ∈ r.listed)

/-- Whether an interface is to be touched can always be told. -/
theorem admits_eq (r : Restriction) (nic : Nic) : r.toScope.admits nic = .ok (r.touches nic) := by
  have hnetwork : nic.networkId.same r.toScope.networkId =
      decide (nic.networkId.str? = some r.network) := by
    rw [Bool.eq_iff_iff, decide_eq_true_iff, Value.str?_eq_some_iff]
    exact Value.same_str_right_iff
  have hlisted : (r.listed.map Value.str).any nic.id.same = nic.id.str?.any (· ∈ r.listed) := by
    rw [Bool.eq_iff_iff, List.any_map, List.any_eq_true, Option.any_eq_true]
    simp only [Function.comp_apply, Value.same_str_right_iff, Value.str?_eq_some_iff,
      decide_eq_true_eq]
    exact exists_congr fun s => and_comm
  rw [Scope.admits, isRestricted_toScope, hnetwork, Bool.not_not, nicIds_orElse, touches]
  split
  · next h => rw [h, Bool.true_or]
  · next h =>
    rw [Bool.not_eq_true] at h
    rw [h, Bool.false_or]
    exact congrArg Except.ok hlisted

theorem touches_toNic (r : Restriction) (i : Interface) : r.touches i.toNic = r.admits i := by
  have hnetwork : decide (i.toNic.networkId.str? = some r.network) = decide (i.network = r.network) :=
    decide_eq_decide.mpr Option.some_inj
  rw [touches, hnetwork, admits]
  rfl

end Restriction

/-! ## Changes -/

/-- A call that gives an interface its addresses, where networks and interfaces go by names of a kind. -/
structure Change (ν : Type) where
  network : ν
  id : ν
  addresses : List Value

/-- Makes the call, for an interface as clients name it. -/
def Change.send {m : Type → Type} [Monad m] (client : Client m) (project region : Value)
    (c : Change Value) : m Unit :=
  (fun _ => ()) <$> client.updateNic project region c.network c.id (.list c.addresses)

/-- The changes of interfaces, in order, where it is given which addresses they are to have. -/
def changes (plan : Nic → Option (List Value)) (nics : List Nic) :
    List (Change Value) :=
  nics.filterMap fun nic => (plan nic).map fun addresses => ⟨nic.networkId, nic.id, addresses⟩

section Changes

variable {m : Type → Type} [Monad m] [LawfulMonad m] [MonadExceptOf Failure m]

/-- A pass over interfaces makes the changes that are planned, and counts them. -/
theorem updateAll_eq (client : Client m) (project region : Value) {scope : Scope} {wanted : Value}
    {plan : Nic → Option (List Value)} {nics : List Nic}
    (hplan : ∀ nic ∈ nics, addressUpdate scope wanted nic = .ok (plan nic)) :
    updateAll client project region scope wanted nics = do
      forM (changes plan nics) (Change.send client project region)
      return (changes plan nics).length := by
  induction nics with
  | nil => exact (pure_bind () fun _ => pure 0).symm
  | cons nic rest ih =>
    have hrest := ih fun nic hnic => hplan nic (List.mem_cons_of_mem _ hnic)
    rw [updateAll, hplan nic List.mem_cons_self, changes, List.filterMap_cons]
    cases plan nic with
    | none =>
      rw [Failure.orThrow, Option.map_none, pure_bind]
      exact hrest
    | some addresses =>
      rw [Failure.orThrow, Option.map_some, pure_bind, hrest, List.forM_cons, Change.send]
      simp only [bind_assoc, bind_map_left, pure_bind, changes, List.length_cons]

end Changes

/-- The addresses of a client's interface, none if it has no list of them. -/
def addressesOf (nic : Nic) : List Value :=
  match nic.allowedAddresses with
  | .list items => items
  | _ => []

/-- The addresses that an interface is to be given: its own and those that it lacks. -/
def plan (r : Restriction) (wanted : List String) (nic : Nic) : Option (List Value) :=
  if r.touches nic && lacks (addressesOf nic) wanted then
    some (addressesOf nic ++ (missing (addressesOf nic) wanted).map .str)
  else none

/-- An interface with a list of addresses is given just those. -/
theorem addressUpdate_eq (r : Restriction) (wanted : List String) {nic : Nic} {items : List Value}
    (hnic : nic.allowedAddresses = .list items) :
    addressUpdate r.toScope (.list (wanted.map .str)) nic = .ok (plan r wanted nic) := by
  have haddresses : addressesOf nic = items := by rw [addressesOf, hnic]
  rw [addressUpdate, r.admits_eq, plan, haddresses, hnic]
  cases r.touches nic with
  | false => rfl
  | true =>
    change (if (merge items (wanted.map .str)).length = items.length then pure none
      else pure (some (merge items (wanted.map .str))) : Except Misfit _) = _
    rw [Bool.true_and, ← merge_eq_append_missing]
    split
    · next hlength =>
      rw [length_merge_eq_iff.mp hlength, if_neg Bool.false_ne_true]
      rfl
    · next hlength =>
      rw [Bool.of_not_eq_false (mt length_merge_eq_iff.mpr hlength), if_pos rfl]
      rfl

/-! ## Updates -/

/-- A change of an interface as a backend names it. -/
abbrev Update := Change String

namespace Update

/-- The interface that the change is for. -/
def key (u : Update) : String × String := (u.network, u.id)

/-- The change as clients call for it. -/
def toChange (u : Update) : Change Value := ⟨.str u.network, .str u.id, u.addresses⟩

/-- Makes the call. -/
def send {m : Type → Type} [Monad m] (client : Client m) (project region : Value) (u : Update) :
    m Unit :=
  u.toChange.send client project region

end Update

variable (r : Restriction) (wanted : List String)

/-- The interface once it allows the wanted addresses, if it is to be touched at all. -/
def allowing (i : Interface) : Interface :=
  if r.admits i then { i with addresses := merge i.addresses (wanted.map .str) } else i

/-- The update that an interface needs, if it lacks an address. -/
def update? (i : Interface) : Option Update :=
  if (allowing r wanted i).addresses.length = i.addresses.length then none
  else some ⟨i.network, i.id, (allowing r wanted i).addresses⟩

/-- The updates that interfaces need, in order. -/
def updates (is : List Interface) : List Update := is.filterMap (update? r wanted)

theorem allowing_of_admits {i : Interface} (h : r.admits i = true) :
    allowing r wanted i = { i with addresses := merge i.addresses (wanted.map .str) } := if_pos h

theorem allowing_of_not_admits {i : Interface} (h : r.admits i = false) :
    allowing r wanted i = i := if_neg (Bool.not_eq_true _ ▸ h)

@[simp] theorem key_allowing (i : Interface) : (allowing r wanted i).key = i.key := by
  rw [allowing]
  split <;> rfl

/-- An interface that needs no update allows the wanted addresses as it is. -/
theorem allowing_of_update?_eq_none {i : Interface} (h : update? r wanted i = none) :
    allowing r wanted i = i := by
  cases hadmits : r.admits i with
  | false => exact allowing_of_not_admits r wanted hadmits
  | true =>
    rw [update?, allowing_of_admits r wanted hadmits] at h
    rw [allowing_of_admits r wanted hadmits]
    split at h
    · next hlength => rw [merge_eq_self_iff.mp hlength]
    · cases h

/-- An update is for the interface that needs it, and gives it the addresses that it is to allow. -/
theorem eq_of_update? {i : Interface} {u : Update} (h : update? r wanted i = some u) :
    u.key = i.key ∧ allowing r wanted i = { i with addresses := u.addresses } := by
  rw [update?] at h
  split at h
  · cases h
  · cases h
    refine ⟨rfl, ?_⟩
    rw [allowing]
    split <;> rfl

/-- What an interface allows in two steps is what it allows in one. -/
theorem allowing_allowing (more : List String) (i : Interface) :
    allowing r more (allowing r wanted i) = allowing r (wanted ++ more) i := by
  cases hadmits : r.admits i with
  | false => simp only [allowing_of_not_admits r _ hadmits]
  | true =>
    have hadmits' : r.admits { i with addresses := merge i.addresses (wanted.map .str) } = true :=
      hadmits
    rw [allowing_of_admits r wanted hadmits, allowing_of_admits r more hadmits',
      allowing_of_admits r _ hadmits, List.map_append, merge_append]

/-- An interface that allows the wanted addresses stays as it is. -/
theorem allowing_self (i : Interface) : allowing r wanted (allowing r wanted i) = allowing r wanted i := by
  cases hadmits : r.admits i with
  | false => simp only [allowing_of_not_admits r wanted hadmits]
  | true =>
    have hadmits' : r.admits { i with addresses := merge i.addresses (wanted.map .str) } = true :=
      hadmits
    rw [allowing_of_admits r wanted hadmits, allowing_of_admits r wanted hadmits', merge_merge_self]

/-- Such an interface needs no update. -/
theorem update?_allowing (i : Interface) : update? r wanted (allowing r wanted i) = none := by
  rw [update?, allowing_self]
  exact if_pos rfl

/-- The updates are for the interfaces in their order. -/
theorem keys_updates_sublist (is : List Interface) :
    ((updates r wanted is).map Update.key).Sublist (is.map Interface.key) := by
  induction is with
  | nil => exact List.Sublist.refl _
  | cons i rest ih =>
    rw [updates, List.filterMap_cons]
    cases hu : update? r wanted i with
    | none => exact ih.cons i.key
    | some u =>
      rw [List.map_cons, List.map_cons, (eq_of_update? r wanted hu).1]
      exact ih.cons_cons i.key

/-! ## Passes -/

theorem plan_toNic (i : Interface) :
    plan r wanted i.toNic = (update? r wanted i).map Change.addresses := by
  have haddresses : addressesOf i.toNic = i.addresses := rfl
  rw [plan, r.touches_toNic, update?, haddresses]
  cases hadmits : r.admits i with
  | false =>
    rw [allowing_of_not_admits r wanted hadmits, if_pos rfl]
    rfl
  | true =>
    rw [allowing_of_admits r wanted hadmits, ← merge_eq_append_missing, Bool.true_and]
    cases hlacks : lacks i.addresses wanted with
    | false =>
      rw [if_pos (length_merge_eq_iff.mpr hlacks)]
      rfl
    | true =>
      rw [if_neg fun h => Bool.false_ne_true ((length_merge_eq_iff.mp h).symm.trans hlacks)]
      rfl

theorem changes_toNic (is : List Interface) :
    changes (plan r wanted) (is.map Interface.toNic) = (updates r wanted is).map Update.toChange := by
  rw [changes, List.filterMap_map, updates, List.map_filterMap]
  apply List.filterMap_congr
  intro i _
  rw [Function.comp_apply, plan_toNic]
  cases hu : update? r wanted i with
  | none => rfl
  | some u =>
    obtain ⟨hnetwork, hid⟩ := Prod.mk.inj (eq_of_update? r wanted hu).1
    rw [Option.map_some, Option.map_some, Option.map_some, Update.toChange, hnetwork, hid]
    rfl

variable {m : Type → Type} [Monad m] [LawfulMonad m] [MonadExceptOf Failure m]

/-- A pass over interfaces makes the updates that they need, and counts them. -/
theorem updateAll_toNic (client : Client m) (project region : Value) (is : List Interface) :
    updateAll client project region r.toScope (.list (wanted.map .str)) (is.map Interface.toNic) =
      do
        forM (updates r wanted is) (Update.send client project region)
        return (updates r wanted is).length := by
  have hplan : ∀ nic ∈ is.map Interface.toNic,
      addressUpdate r.toScope (.list (wanted.map .str)) nic = .ok (plan r wanted nic) := by
    intro nic hnic
    obtain ⟨i, -, rfl⟩ := List.mem_map.mp hnic
    exact addressUpdate_eq r wanted rfl
  rw [updateAll_eq client project region hplan, changes_toNic, List.forM_map, List.length_map]
  rfl

end Machine

end MachineCloud
