import MachineCloud.Proofs.Lists
import MachineCloud.Proofs.Machine.Calls

/-!
# What a restriction covers

A restriction names a network, or interfaces by their identifiers, or both, and covers the interfaces
that it names.  A network that is not named is an empty text, and so is the network of an interface
whose object gives none.  The two are taken for the same: where no network is named, an interface
without one is touched along with those that are covered (`touches_iff_of_isGiven`).  No call goes to
any other interface, and where nothing is missing on such interfaces, none goes to them either
(`calls_covered_iff`).
-/

namespace MachineCloud.Machine

namespace Restriction

/-- Whether anything is named. -/
def IsGiven (r : Restriction) : Prop := r.network ≠ "" ∨ r.listed ≠ []

/-- Whether an interface is in the network that is named, or is listed. -/
def Covers (r : Restriction) (network id : Value) : Prop :=
  (r.network ≠ "" ∧ network = .str r.network) ∨ ∃ x ∈ r.listed, id = .str x

/-- A restriction by which something is named touches what it covers and, if it names no network, the
interfaces without one. -/
theorem touches_iff_of_isGiven {r : Restriction} (hgiven : r.IsGiven) {nic : Nic} :
    r.touches nic = true ↔
      r.Covers nic.networkId nic.id ∨ r.network = "" ∧ nic.networkId = .str "" := by
  have hrestricted : (r.network = "" && r.listed.isEmpty) = false := by
    rw [Bool.and_eq_false_iff, decide_eq_false_iff_not, List.isEmpty_eq_false_iff]
    exact hgiven
  have hlisted : nic.id.str?.any (· ∈ r.listed) = true ↔ ∃ x ∈ r.listed, nic.id = .str x := by
    rw [Option.any_eq_true]
    simp only [Value.str?_eq_some_iff, decide_eq_true_eq]
    exact exists_congr fun x => and_comm
  rw [touches, hrestricted, Bool.false_or, Bool.or_eq_true, decide_eq_true_eq,
    Value.str?_eq_some_iff, hlisted, Covers]
  by_cases hnetwork : r.network = ""
  · simp [hnetwork, or_comm]
  · simp [hnetwork]

end Restriction

/-! ## Interfaces as they are read -/

/-- Whether a backend's object gives an interface no network. -/
def IsUnplaced : Value → Prop
  | .map members => member members "networkId" = .null ∨ member members "networkId" = .str ""
  | _ => False

/-- An interface that has been read has a list of addresses, and its network is an empty text if its
object gives none. -/
theorem fromWire_spec {item : Value} {nic : Nic} (h : Nic.fromWire item = .ok nic) :
    (∃ items, nic.allowedAddresses = .list items) ∧ (nic.networkId = .str "" ↔ IsUnplaced item) := by
  cases item with
  | map members =>
    obtain ⟨members', hmembers, h⟩ := exists_of_bind_eq_ok h
    cases hmembers
    obtain ⟨allowed, -, h⟩ := exists_of_bind_eq_ok h
    cases h
    refine ⟨⟨_, rfl⟩, ?_⟩
    rw [IsUnplaced]
    cases member members "networkId" <;> simp [Attribute.stringValue]
  | null | bool | int | float | str | list => cases h

/-- The interfaces that have been read are those that the objects describe. -/
theorem mem_iff_of_map_fromWire {items : List Value} {nics : List Nic}
    (hitems : items.map Nic.fromWire = nics.map .ok) {nic : Nic} :
    nic ∈ nics ↔ ∃ item ∈ items, Nic.fromWire item = .ok nic := by
  rw [← List.mem_map, hitems, List.mem_map]
  simp only [Except.ok.injEq, exists_eq_right]

/-! ## Calls -/

section Calls

variable {σ : Type} {client : Client (EStateM Failure σ)} (project region server : Value)
  (r : Restriction) {wanted : List String} {nics : List Nic} {s s₁ : σ}

/-- The calls of a run. -/
def runCalls (client : Client (EStateM Failure σ)) (project region server : Value)
    (r : Restriction) (wanted : List String) (s : σ) : List Call :=
  callsOf ((ensureAllowed client.noting project region server (.list (wanted.map .str))
    r.toScope).run (s, []))

/-- An update is for an interface that is touched and lacks an address. -/
theorem exists_of_update_mem (hwanted : wanted ≠ [])
    (hlist : (client.listNics project region server).run s = .ok (some nics) s₁)
    (haddresses : ∀ nic ∈ nics, ∃ items, nic.allowedAddresses = .list items)
    {network id addresses : Value}
    (hmem : .operation (.updateNic project region network id addresses) ∈
      runCalls client project region server r wanted s) :
    ∃ nic ∈ nics, r.touches nic = true ∧ lacks (addressesOf nic) wanted = true ∧
      network = nic.networkId ∧ id = nic.id := by
  cases nics with
  | nil =>
    rw [runCalls, run_ensureAllowed_noting project region server r hwanted hlist] at hmem
    cases List.mem_singleton.mp hmem
  | cons first rest =>
    obtain ⟨made, hmade, hcalls⟩ := (watched_ensureAllowed project region server r hwanted
      (List.cons_ne_nil first rest) hlist haddresses).callsOf_eq
    rw [runCalls, hcalls] at hmem
    rcases List.mem_cons.mp hmem with hfirst | hmem
    · cases hfirst
    · obtain ⟨c, hc, hcall⟩ := List.mem_map.mp hmem
      cases hcall
      have hplanned := hmade.subset hc
      rw [changes_plan] at hplanned
      obtain ⟨nic, hnic, rfl⟩ := List.mem_map.mp hplanned
      obtain ⟨hnic, hchosen⟩ := List.mem_filter.mp hnic
      obtain ⟨htouches, hlacks⟩ := Bool.and_eq_true_iff.mp hchosen
      exact ⟨nic, hnic, htouches, hlacks, rfl, rfl⟩

/-- If no update fails, every such interface gets one. -/
theorem exists_update_mem (hupdates : client.AlwaysUpdates) (hwanted : wanted ≠ [])
    (hlist : (client.listNics project region server).run s = .ok (some nics) s₁)
    (haddresses : ∀ nic ∈ nics, ∃ items, nic.allowedAddresses = .list items) {nic : Nic}
    (hnic : nic ∈ nics) (htouches : r.touches nic = true)
    (hlacks : lacks (addressesOf nic) wanted = true) :
    ∃ addresses, .operation (.updateNic project region nic.networkId nic.id addresses) ∈
      runCalls client project region server r wanted s := by
  obtain ⟨s', hran⟩ := (watched_ensureAllowed project region server r hwanted
    (List.ne_nil_of_mem hnic) hlist haddresses).eq_ok hupdates
  have hplan : plan r wanted nic = some _ := if_pos (Bool.and_eq_true_iff.mpr ⟨htouches, hlacks⟩)
  have hplanned : _ ∈ changes (plan r wanted) nics :=
    List.mem_filterMap.mpr ⟨nic, hnic, congrArg (Option.map _) hplan⟩
  refine ⟨.list (addressesOf nic ++ (missing (addressesOf nic) wanted).map .str), ?_⟩
  rw [runCalls, hran]
  exact List.mem_cons_of_mem _ (List.mem_map_of_mem (f := Change.call project region) hplanned)

/-- Where something is named, every update is for an interface that is covered or, if no network is
named, for one without a network.  If no update fails, all of them are for interfaces that are covered
exactly if, in case no network is named, all interfaces without one are listed or lack no address. -/
theorem calls_covered_iff {items : List Value} (hitems : items.map Nic.fromWire = nics.map .ok)
    (hlist : (client.listNics project region server).run s = .ok (some nics) s₁)
    (hgiven : r.IsGiven) (hwanted : wanted ≠ []) :
    let calls := runCalls client project region server r wanted s
    (∀ network id addresses,
      .operation (.updateNic project region network id addresses) ∈ calls →
        r.Covers network id ∨ r.network = "" ∧ network = .str "") ∧
    (client.AlwaysUpdates →
      ((∀ network id addresses,
        .operation (.updateNic project region network id addresses) ∈ calls →
          r.Covers network id) ↔
        ∀ item ∈ items, ∀ nic, Nic.fromWire item = .ok nic → IsUnplaced item → r.network = "" →
          (∃ x ∈ r.listed, nic.id = .str x) ∨ lacks (addressesOf nic) wanted = false)) := by
  intro calls
  have haddresses : ∀ nic ∈ nics, ∃ items, nic.allowedAddresses = .list items := by
    intro nic hnic
    obtain ⟨item, -, hread⟩ := (mem_iff_of_map_fromWire hitems).mp hnic
    exact (fromWire_spec hread).1
  refine ⟨?_, fun hupdates => ⟨?_, ?_⟩⟩
  · intro network id addresses hmem
    obtain ⟨nic, -, htouches, -, rfl, rfl⟩ :=
      exists_of_update_mem project region server r hwanted hlist haddresses hmem
    exact (Restriction.touches_iff_of_isGiven hgiven).mp htouches
  · intro hcovers item hmem nic hread hunplaced hnetwork
    rw [or_iff_not_imp_right]
    intro hlacks
    have hnic : nic ∈ nics := (mem_iff_of_map_fromWire hitems).mpr ⟨item, hmem, hread⟩
    have htouches : r.touches nic = true :=
      (Restriction.touches_iff_of_isGiven hgiven).mpr
        (.inr ⟨hnetwork, (fromWire_spec hread).2.mpr hunplaced⟩)
    obtain ⟨addresses, hupdate⟩ := exists_update_mem project region server r hupdates hwanted hlist
      haddresses hnic htouches (Bool.of_not_eq_false hlacks)
    exact (hcovers _ _ _ hupdate).resolve_left fun hnamed => hnamed.1 hnetwork
  · intro hlisted network id addresses hmem
    obtain ⟨nic, hnic, htouches, hlacks, rfl, rfl⟩ :=
      exists_of_update_mem project region server r hwanted hlist haddresses hmem
    rcases (Restriction.touches_iff_of_isGiven hgiven).mp htouches with hcovers | ⟨hnetwork, hempty⟩
    · exact hcovers
    · obtain ⟨item, hitem, hread⟩ := (mem_iff_of_map_fromWire hitems).mp hnic
      rcases hlisted item hitem nic hread ((fromWire_spec hread).2.mp hempty) hnetwork with h | h
      · exact .inr h
      · cases hlacks.symm.trans h

end Calls

/-- Only one interface is listed, and another one has no network. -/
theorem calls_covered_iff_of_unplaced :
    let items : List Value := [.map [("id", .str "nic-1")],
      .map [("id", .str "nic-2"), ("networkId", .str "net-1")]]
    let nics : List Nic := [⟨.str "nic-1", .str "", .list [], .null, .null⟩,
      ⟨.str "nic-2", .str "net-1", .list [], .null, .null⟩]
    let r : Restriction := { ids := some ["nic-2"] }
    items.map Nic.fromWire = nics.map .ok ∧ r.IsGiven ∧ (stocked nics).AlwaysUpdates ∧
      ¬ ∀ network id addresses, .operation (.updateNic (.str "p-1") (.str "eu01") network id addresses) ∈
        runCalls (stocked nics) (.str "p-1") (.str "eu01") (.str "s-1") r ["10.1.0.0/16"] () →
          r.Covers network id := by
  intro items nics r
  have hitems : items.map Nic.fromWire = nics.map .ok := rfl
  have hgiven : r.IsGiven := .inr (List.cons_ne_nil _ _)
  have hupdates : (stocked nics).AlwaysUpdates := fun _ _ _ _ _ s => ⟨none, s, rfl⟩
  have hlist : ((stocked nics).listNics (.str "p-1") (.str "eu01") (.str "s-1")).run () =
      .ok (some nics) () := rfl
  refine ⟨hitems, hgiven, hupdates, fun hcovers => ?_⟩
  have hcovered := ((calls_covered_iff (.str "p-1") (.str "eu01") (.str "s-1") r hitems hlist hgiven
    (List.cons_ne_nil "10.1.0.0/16" [])).2 hupdates).mp hcovers
  rcases hcovered _ List.mem_cons_self _ rfl (.inl rfl) rfl with ⟨x, hx, hid⟩ | hlacks
  · obtain rfl := List.mem_singleton.mp hx
    exact absurd (Value.str.inj hid) (by decide)
  · cases hlacks

end MachineCloud.Machine
