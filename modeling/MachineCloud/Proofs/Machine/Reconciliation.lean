import MachineCloud.Proofs.Lists
import MachineCloud.Proofs.Machine.Backend

/-!
# Reconciling a backend

Making a backend allow some addresses and then some more leaves it as it is left by making it allow
all of them at once, so doing it twice is doing it once (`pass_append`).  A run that was interrupted
by a refused update can be repeated: the second one makes just the updates that are still needed, and
the backend ends up as if nothing had happened in between (`pass_resumes`).
-/

namespace MachineCloud.Machine

/-! ## What is needed after some updates -/

section Needs

variable (r : Restriction) (wanted : List String) (inv : Inventory)

/-- Where the wanted addresses are allowed, no update is needed. -/
theorem needs_allowed : needs r wanted (allowed r wanted inv) = [] := by
  apply List.filterMap_eq_nil_iff.mpr
  intro i hi
  obtain ⟨j, -, rfl⟩ := List.mem_map.mp hi
  exact update?_allowing r wanted j

theorem allowed_self : allowed r wanted (allowed r wanted inv) = allowed r wanted inv := by
  rw [← updateAll_needs, needs_allowed]
  rfl

theorem allowed_append (more : List String) :
    allowed r more (allowed r wanted inv) = allowed r (wanted ++ more) inv := by
  apply Inventory.ext
  change (inv.interfaces.map _).map _ = inv.interfaces.map _
  rw [List.map_map]
  exact List.map_congr_left fun i _ => allowing_allowing r wanted more i

/-- After some of the updates that are needed, the interfaces that they are for are as they are to be in
the end, and the others as they were. -/
theorem find?_updateAll_of_subset {us : List Update} (h : us ⊆ needs r wanted inv)
    (key : String × String) :
    (inv.updateAll us).find? key =
      if key ∈ us.map Update.key then (allowed r wanted inv).find? key else inv.find? key := by
  have hupdated : ∀ i : Interface,
      (if i.key ∈ us.map Update.key then allowing r wanted i else i).key = i.key := by
    intro i
    split
    · exact key_allowing r wanted i
    · rfl
  have hallowed : (allowed r wanted inv).find? key = (inv.find? key).map (allowing r wanted) :=
    Inventory.find?_of_interfaces_eq_map (key_allowing r wanted) rfl key
  rw [Inventory.find?_of_interfaces_eq_map hupdated (interfaces_updateAll_of_subset h) key, hallowed]
  cases hfind : inv.find? key with
  | none => simp
  | some i =>
    have hkey : i.key = key := Inventory.key_of_find? hfind
    rw [Option.map_some, Option.map_some, hkey]
    split <;> rfl

variable (k : Nat)

/-- After the first updates that are needed, the others are. -/
theorem needs_updateAll_take :
    needs r wanted (inv.updateAll ((needs r wanted inv).take k)) = (needs r wanted inv).drop k := by
  have hupdate (i : Interface) (hi : i ∈ inv.interfaces) :
      update? r wanted (if i.key ∈ ((needs r wanted inv).take k).map Update.key
        then allowing r wanted i else i) =
      (update? r wanted i).filter fun u => u.key ∉ ((needs r wanted inv).take k).map Update.key := by
    cases hu : update? r wanted i with
    | none =>
      rw [allowing_of_update?_eq_none r wanted hu, ite_self, hu]
      rfl
    | some u =>
      rw [Option.filter_some, (eq_of_update? r wanted hu).1]
      split
      · next hdone => rw [update?_allowing, if_neg (by simpa using hdone)]
      · next hdone => rw [hu, if_pos (by simpa using hdone)]
  rw [needs, interfaces_updateAll_of_subset (List.take_subset k _), updates, List.filterMap_map]
  calc inv.interfaces.filterMap _
      = inv.interfaces.filterMap fun i => (update? r wanted i).filter fun u =>
          u.key ∉ ((needs r wanted inv).take k).map Update.key := List.filterMap_congr hupdate
    _ = (needs r wanted inv).filter fun u =>
          u.key ∉ ((needs r wanted inv).take k).map Update.key := List.filter_filterMap.symm
    _ = (needs r wanted inv).drop k := filter_notMem_take Update.key nodup_needs k

/-- It does not matter for what is allowed in the end that some of the updates have been made. -/
theorem allowed_updateAll_take :
    allowed r wanted (inv.updateAll ((needs r wanted inv).take k)) = allowed r wanted inv := by
  rw [← updateAll_needs, needs_updateAll_take, ← updateAll_needs, Inventory.updateAll,
    Inventory.updateAll, ← List.foldl_append, List.take_append_drop]
  rfl

end Needs

/-! ## Runs -/

namespace Backend

variable (base : Client (EStateM Failure Backend)) (project region server : Value) (r : Restriction)
  (wanted : List String) (inv : Inventory)

/-- A run in which no update is refused. -/
def fullPass : Pass := pass base (fun _ => none) project region server r wanted inv

/-- Such a run makes all updates that are needed. -/
theorem fullPass_eq :
    fullPass base project region server r wanted inv =
      ⟨.ok (needs r wanted inv).length, allowed r wanted inv, needs r wanted inv⟩ := by
  have hpassing := pass_spec base (fun _ => none) project region server r wanted inv
  rw [fullPass]
  generalize pass base (fun _ => none) project region server r wanted inv = p at hpassing ⊢
  cases hpassing with
  | completed _ => rfl
  | interrupted _ _ hrefused => cases hrefused

/-- Allowing some addresses and then some more is the same as allowing all of them.  In particular a
run that is repeated finds nothing to do. -/
theorem pass_append (more : List String) :
    let after := (fullPass base project region server r wanted inv).inventory
    (fullPass base project region server r more after).inventory =
      (fullPass base project region server r (wanted ++ more) inv).inventory ∧
    fullPass base project region server r wanted after = ⟨.ok 0, after, []⟩ := by
  intro after
  have hafter : after = allowed r wanted inv := by
    change (fullPass base project region server r wanted inv).inventory = _
    rw [fullPass_eq]
  rw [fullPass_eq, fullPass_eq, fullPass_eq, hafter]
  constructor
  · exact allowed_append r wanted inv more
  · rw [needs_allowed, allowed_self]
    rfl

/-- A run in which a call is made and refused ends with that call. -/
theorem Passing.eq_of_refused {refuses : Nat → Option Failure} {r : Restriction}
    {wanted : List String} {inv : Inventory} {p : Pass} (h : Passing refuses r wanted inv p) {k : Nat}
    {failure : Failure} (hrefused : refuses k = some failure) (hmade : k < p.calls.length) :
    p = ⟨.error failure, inv.updateAll ((needs r wanted inv).take k),
      (needs r wanted inv).take (k + 1)⟩ := by
  cases h with
  | completed htaken => cases (htaken k hmade).symm.trans hrefused
  | @interrupted k' failure' hk' htaken hrefused' =>
    have hle : k ≤ k' :=
      Nat.le_of_lt_succ (Nat.lt_of_lt_of_le hmade (List.length_take_le (k' + 1) _))
    rcases Nat.lt_or_eq_of_le hle with hlt | rfl
    · cases (htaken k hlt).symm.trans hrefused
    · cases hrefused'.symm.trans hrefused
      rfl

/-- If the call with number `k` is made and refused, the run ends there, with the same failure.  The
interfaces of the calls before it are then as a run without refusals leaves them, all others as they
were.  A second run leaves all of them as that run does, and makes none of those calls again. -/
theorem pass_resumes {refuses : Nat → Option Failure} {k : Nat} {failure : Failure}
    (hrefused : refuses k = some failure)
    (hmade : k < (pass base refuses project region server r wanted inv).calls.length) :
    let whole := fullPass base project region server r wanted inv
    let first := pass base refuses project region server r wanted inv
    let second := fullPass base project region server r wanted first.inventory
    let done := (first.calls.take k).map Update.key
    (first.result = .error failure ∧ first.calls = whole.calls.take (k + 1)) ∧
    (∀ key, first.inventory.find? key =
      if key ∈ done then whole.inventory.find? key else inv.find? key) ∧
    (second.result = .ok second.calls.length ∧ second.inventory = whole.inventory) ∧
    second.calls = whole.calls.drop k ∧ ∀ u ∈ second.calls, u.key ∉ done := by
  intro whole first second done
  have hfirst : first = _ :=
    (pass_spec base refuses project region server r wanted inv).eq_of_refused hrefused hmade
  have hwhole : whole = _ := fullPass_eq base project region server r wanted inv
  have hsecond : second = ⟨.ok ((needs r wanted inv).drop k).length, allowed r wanted inv,
      (needs r wanted inv).drop k⟩ := by
    change fullPass base project region server r wanted first.inventory = _
    rw [fullPass_eq, hfirst, needs_updateAll_take, allowed_updateAll_take]
  have hdone : done = ((needs r wanted inv).take k).map Update.key := by
    change (first.calls.take k).map Update.key = _
    rw [hfirst, List.take_take, Nat.min_eq_left (Nat.le_succ k)]
  clear_value whole first second done
  subst hfirst hwhole hsecond hdone
  refine ⟨⟨rfl, rfl⟩, ?_, ⟨rfl, rfl⟩, rfl, ?_⟩
  · intro key
    exact find?_updateAll_of_subset r wanted inv (List.take_subset k _) key
  · intro u hu
    exact notMem_take_of_mem_drop Update.key nodup_needs k hu

/-- A client that can do nothing. -/
def idle : Client (EStateM Failure Backend) where
  createServer _ _ _ := return none
  getServer _ _ _ := return none
  deleteServer _ _ _ := return
  listServers _ _ _ := return none
  listNics _ _ _ := return none
  updateNic _ _ _ _ _ := return none
  close := return

/-- Three interfaces, of which the second one allows all that is wanted, and the update of the third one
is refused. -/
theorem pass_resumes_of_third :
    let inv : Inventory :=
      ⟨[⟨"n-1", "i-1", [], .null, .null⟩, ⟨"n-1", "i-2", [.str "10.0.0.0/24"], .null, .null⟩,
        ⟨"n-2", "i-1", [.str "10.1.0.0/16"], .null, .null⟩], by decide, by decide⟩
    let failure : Failure := .of (.timeout "timed out")
    let refuses (n : Nat) : Option Failure := if n = 1 then some failure else none
    let first := pass idle refuses (.str "p-1") (.str "eu01") (.str "s-1") {} ["10.0.0.0/24"] inv
    let full (inv : Inventory) :=
      fullPass idle (.str "p-1") (.str "eu01") (.str "s-1") {} ["10.0.0.0/24"] inv
    refuses 1 = some failure ∧ 1 < first.calls.length ∧ first.result = .error failure ∧
      (full first.inventory).inventory = (full inv).inventory := by
  intro inv failure refuses first full
  have hrefused : refuses 1 = some failure := rfl
  have hmade : 1 < first.calls.length := by decide
  have hresumes := pass_resumes idle (.str "p-1") (.str "eu01") (.str "s-1") {} ["10.0.0.0/24"] inv
    hrefused hmade
  exact ⟨hrefused, hmade, hresumes.1.1, hresumes.2.2.1.2⟩

end Backend

end MachineCloud.Machine
