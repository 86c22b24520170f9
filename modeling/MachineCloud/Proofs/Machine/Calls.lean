import MachineCloud.Proofs.Api.Operation
import MachineCloud.Proofs.Machine.Updates

/-!
# The calls of a run

A run of `ensureAllowed` is watched from outside.  The client may keep any state, and its operations may
do what they like; every call on it is noted (`Client.noting`).  If addresses are wanted, the interfaces
are listed, and then just the changes that are planned are called for, one after the other, up to the
first call that fails (`watched_ensureAllowed`).  So if none fails, it is the interfaces in scope that
lack an address to which a call goes, each with its own addresses and those that it lacks
(`ensureAllowed_calls`).
-/

namespace MachineCloud

/-! ## Clients that are watched -/

/-- A call on a client. -/
inductive Call where
  | operation (op : Operation)
  | closing

namespace Call

variable {σ α β : Type}

/-- What something comes to, with the call for it noted after others. -/
def noteResult (c : Call) (before : List Call) :
    EStateM.Result Failure σ α → EStateM.Result Failure (σ × List Call) α
  | .ok a s => .ok a (s, before ++ [c])
  | .error failure s => .error failure (s, before ++ [c])

/-- Does something and notes the call for it, whatever comes of it. -/
def noted (c : Call) (x : EStateM Failure σ α) : EStateM Failure (σ × List Call) α :=
  fun s => c.noteResult s.2 (x s.1)

/-- What comes of something does not depend on its being noted. -/
theorem run_map_noted (c : Call) (f : α → β) (x : EStateM Failure σ α) (s : σ)
    (before : List Call) :
    (f <$> c.noted x).run (s, before) = c.noteResult before ((f <$> x).run s) := by
  change EStateM.map f (c.noted x) (s, before) = c.noteResult before (EStateM.map f x s)
  rw [EStateM.map, EStateM.map, noted]
  cases x s <;> rfl

end Call

namespace Client

variable {σ : Type}

/-- The client, with all calls on it noted, oldest first. -/
def noting (client : Client (EStateM Failure σ)) : Client (EStateM Failure (σ × List Call)) where
  createServer project region request :=
    Call.noted (.operation (.createServer project region request))
      (client.createServer project region request)
  getServer project region server :=
    Call.noted (.operation (.getServer project region server)) (client.getServer project region server)
  deleteServer project region server :=
    Call.noted (.operation (.deleteServer project region server))
      (client.deleteServer project region server)
  listServers project region selector :=
    Call.noted (.operation (.listServers project region selector))
      (client.listServers project region selector)
  listNics project region server :=
    Call.noted (.operation (.listNics project region server)) (client.listNics project region server)
  updateNic project region network nic addresses :=
    Call.noted (.operation (.updateNic project region network nic addresses))
      (client.updateNic project region network nic addresses)
  close := Call.noted .closing client.close

/-- Whether updates of interfaces always succeed. -/
def AlwaysUpdates (client : Client (EStateM Failure σ)) : Prop :=
  ∀ project region network nic addresses s, ∃ updated s',
    (client.updateNic project region network nic addresses).run s = .ok updated s'

end Client

namespace Machine

variable {σ : Type} (client : Client (EStateM Failure σ)) (project region : Value)

/-- The call that makes a change. -/
def Change.call (c : Change Value) : Call :=
  .operation (.updateNic project region c.network c.id (.list c.addresses))

/-- What is noted of a run, whatever it came to. -/
def callsOf {α : Type} : EStateM.Result Failure (σ × List Call) α → List Call
  | .ok _ s => s.2
  | .error _ s => s.2

/-- The ways in which changes that are made one after the other can go, after other calls. -/
inductive Watched {α : Type} (cs : List (Change Value)) (before : List Call) (a : α) :
    EStateM.Result Failure (σ × List Call) α → Prop
  /-- All are made. -/
  | completed (s : σ) : Watched cs before a (.ok a (s, before ++ cs.map (Change.call project region)))
  /-- A call fails, and there is none after it. -/
  | interrupted {done rest : List (Change Value)} {c : Change Value} {failure : Failure} {s s' : σ}
      (hcs : cs = done ++ c :: rest)
      (hfailed : (c.send client project region).run s = .error failure s') :
      Watched cs before a
        (.error failure (s', before ++ (done ++ [c]).map (Change.call project region)))

namespace Watched

variable {client project region} {α : Type} {cs : List (Change Value)} {before : List Call} {a : α}

/-- One more change before the others, which is made. -/
theorem cons {c : Change Value} {result : EStateM.Result Failure (σ × List Call) α}
    (h : Watched client project region cs (before ++ [c.call project region]) a result) :
    Watched client project region (c :: cs) before a result := by
  cases h with
  | completed s =>
    rw [List.append_assoc]
    exact .completed s
  | @interrupted done rest last failure s s' hcs hfailed =>
    rw [List.append_assoc]
    have hcons : c :: cs = (c :: done) ++ last :: rest := congrArg (c :: ·) hcs
    exact .interrupted hcons hfailed

/-- A value that is given after the changes. -/
theorem andThen {x : EStateM Failure (σ × List Call) Unit} {state : σ × List Call}
    (h : Watched client project region cs before () (x.run state)) (a : α) :
    Watched client project region cs before a ((x >>= fun _ => pure a).run state) := by
  rw [EStateM.run_bind]
  generalize x.run state = result at h ⊢
  cases h with
  | completed s => exact .completed s
  | interrupted hcs hfailed => exact .interrupted hcs hfailed

/-- No call is made but for the changes, in their order. -/
theorem callsOf_eq {result : EStateM.Result Failure (σ × List Call) α}
    (h : Watched client project region cs before a result) :
    ∃ made, made <+: cs ∧ callsOf result = before ++ made.map (Change.call project region) := by
  cases h with
  | completed s => exact ⟨cs, List.prefix_refl cs, rfl⟩
  | @interrupted done rest c failure s s' hcs hfailed =>
    refine ⟨done ++ [c], ⟨rest, ?_⟩, rfl⟩
    rw [hcs, List.append_assoc]
    rfl

/-- If updates always succeed, all changes are made. -/
theorem eq_ok {result : EStateM.Result Failure (σ × List Call) α}
    (h : Watched client project region cs before a result) (hupdates : client.AlwaysUpdates) :
    ∃ s, result = .ok a (s, before ++ cs.map (Change.call project region)) := by
  cases h with
  | completed s => exact ⟨s, rfl⟩
  | @interrupted done rest c failure s s' hcs hfailed =>
    obtain ⟨updated, s'', hupdated⟩ :=
      hupdates project region c.network c.id (.list c.addresses) s
    rw [EStateM.run] at hupdated
    have hsend : (c.send client project region).run s = .ok () s'' := by
      change EStateM.map (fun _ => ()) _ s = _
      rw [EStateM.map, hupdated]
    cases hsend.symm.trans hfailed

end Watched

theorem watched_forM (cs : List (Change Value)) (s : σ) (before : List Call) :
    Watched client project region cs before ()
      ((forM cs (Change.send client.noting project region)).run (s, before)) := by
  induction cs generalizing s before with
  | nil =>
    have hcompleted : Watched client project region [] before () _ := .completed s
    rw [List.map_nil, List.append_nil] at hcompleted
    exact hcompleted
  | cons c rest ih =>
    have hnoted : (c.send client.noting project region).run (s, before) = _ :=
      (c.call project region).run_map_noted (fun _ => ()) _ s before
    rw [List.forM_cons, EStateM.run_bind, hnoted, ← Change.send]
    cases hsend : (c.send client project region).run s with
    | error failure s' =>
      have hfirst : c :: rest = [] ++ c :: rest := rfl
      exact .interrupted hfirst hsend
    | ok _ s' => exact (ih s' _).cons

/-! ## Runs -/

variable (server : Value) (r : Restriction) {wanted : List String}

/-- The call that lists the interfaces. -/
def listingCall : Call := .operation (.listNics project region server)

variable {client} {s s₁ : σ}

/-- If no address is wanted there is no call. -/
theorem run_ensureAllowed_nil :
    (ensureAllowed client.noting project region server (.list []) r.toScope).run (s, []) =
      .ok 0 (s, []) := rfl

/-- Otherwise the interfaces are listed first. -/
theorem run_ensureAllowed_noting (hwanted : wanted ≠ []) {nics : List Nic}
    (hlist : (client.listNics project region server).run s = .ok (some nics) s₁) :
    (ensureAllowed client.noting project region server (.list (wanted.map .str)) r.toScope).run
        (s, []) =
      match nics with
      | [] => .error (.of (.lookup (.noInterface server.text))) (s₁, [listingCall project region server])
      | nics => (updateAll client.noting project region r.toScope (.list (wanted.map .str)) nics).run
          (s₁, [listingCall project region server]) := by
  have hlisted : (client.noting.listNics project region server).run (s, []) =
      .ok (some nics) (s₁, [listingCall project region server]) :=
    congrArg (Call.noteResult _ []) hlist
  have htruthy : (Value.list (wanted.map .str)).isTruthy = true := by
    cases wanted with
    | nil => exact absurd rfl hwanted
    | cons => rfl
  rw [ensureAllowed, htruthy, Bool.not_true, if_neg Bool.false_ne_true, EStateM.run_bind, hlisted]
  cases nics <;> rfl

/-- Then the changes are made that are planned for them. -/
theorem watched_ensureAllowed (hwanted : wanted ≠ []) {nics : List Nic} (hnics : nics ≠ [])
    (hlist : (client.listNics project region server).run s = .ok (some nics) s₁)
    (haddresses : ∀ nic ∈ nics, ∃ items, nic.allowedAddresses = .list items) :
    Watched client project region (changes (plan r wanted) nics) [listingCall project region server]
      (changes (plan r wanted) nics).length
      ((ensureAllowed client.noting project region server (.list (wanted.map .str)) r.toScope).run
        (s, [])) := by
  have hplan : ∀ nic ∈ nics,
      addressUpdate r.toScope (.list (wanted.map .str)) nic = .ok (plan r wanted nic) := by
    intro nic hnic
    obtain ⟨items, hitems⟩ := haddresses nic hnic
    exact addressUpdate_eq r wanted hitems
  rw [run_ensureAllowed_noting project region server r hwanted hlist]
  cases nics with
  | nil => exact absurd rfl hnics
  | cons nic rest =>
    change Watched client project region _ _ _ ((updateAll client.noting _ _ _ _ (nic :: rest)).run _)
    rw [updateAll_eq client.noting project region hplan]
    exact (watched_forM client project region _ s₁ _).andThen _

/-- The changes that are planned are for the interfaces in scope that lack an address. -/
theorem changes_plan (nics : List Nic) :
    changes (plan r wanted) nics =
      (nics.filter fun nic => r.touches nic && lacks (addressesOf nic) wanted).map fun nic =>
        ⟨nic.networkId, nic.id, addressesOf nic ++ (missing (addressesOf nic) wanted).map .str⟩ := by
  rw [← List.filterMap_eq_map', List.filterMap_filter, changes]
  apply List.filterMap_congr
  intro nic _
  rw [plan]
  split <;> rfl

/-- If no address is wanted, no operation is called for.  If one is and there is no interface, that is
reported, and nothing is updated.  Otherwise each interface that is in scope and lacks an address is
updated once, in the order of the listing, and no other one is: it gets its own addresses followed by
those that it lacks.  The result is the number of these calls. -/
theorem ensureAllowed_calls (wanted : List String) (hupdates : client.AlwaysUpdates)
    {interfaces : List Interface}
    (hlist : (client.listNics project region server).run s =
      .ok (some (interfaces.map Interface.toNic)) s₁) :
    let ran := (ensureAllowed client.noting project region server (.list (wanted.map .str))
      r.toScope).run (s, [])
    let calls := (interfaces.filter fun i => r.admits i && lacks i.addresses wanted).map fun i =>
      Call.operation (.updateNic project region (.str i.network) (.str i.id)
        (.list (i.addresses ++ (missing i.addresses wanted).map .str)))
    (wanted = [] → ran = .ok 0 (s, [])) ∧
    (wanted ≠ [] → interfaces = [] →
      ran = .error (.of (.lookup (.noInterface server.text))) (s₁, [listingCall project region server])) ∧
    (wanted ≠ [] → interfaces ≠ [] →
      ∃ s', ran = .ok calls.length (s', listingCall project region server :: calls)) := by
  intro ran calls
  refine ⟨?_, ?_, ?_⟩
  · rintro rfl
    exact run_ensureAllowed_nil project region server r
  · rintro hwanted rfl
    exact run_ensureAllowed_noting project region server r hwanted hlist
  · intro hwanted hinterfaces
    have haddresses : ∀ nic ∈ interfaces.map Interface.toNic,
        ∃ items, nic.allowedAddresses = .list items := by
      intro nic hnic
      obtain ⟨i, -, rfl⟩ := List.mem_map.mp hnic
      exact ⟨i.addresses, rfl⟩
    have hcalls : (changes (plan r wanted) (interfaces.map Interface.toNic)).map
        (Change.call project region) = calls := by
      have htouches : (fun nic => r.touches nic && lacks (addressesOf nic) wanted) ∘ Interface.toNic =
          fun i => r.admits i && lacks i.addresses wanted := by
        funext i
        rw [Function.comp_apply, r.touches_toNic]
        rfl
      rw [changes_plan, List.filter_map, htouches, List.map_map, List.map_map]
      rfl
    obtain ⟨s', hran⟩ := (watched_ensureAllowed project region server r hwanted
      (mt List.map_eq_nil_iff.mp hinterfaces) hlist haddresses).eq_ok hupdates
    refine ⟨s', ?_⟩
    rw [← hcalls, List.length_map]
    exact hran

/-- A client that lists some interfaces and takes every update. -/
def stocked (nics : List Nic) : Client (EStateM Failure Unit) where
  createServer _ _ _ := return none
  getServer _ _ _ := return none
  deleteServer _ _ _ := return
  listServers _ _ _ := return none
  listNics _ _ _ := return some nics
  updateNic _ _ _ _ _ := return none
  close := return

/-- Four interfaces, of which two are in the network and one is listed.  One of these has all that is
wanted, the others get what they lack in the order in which it is wanted. -/
theorem ensureAllowed_calls_of_four :
    let interfaces : List Interface :=
      [⟨"net-1", "nic-1", [.str "10.1.0.0/16"], .null, .null⟩,
        ⟨"net-2", "nic-2", [], .null, .null⟩,
        ⟨"net-1", "nic-3", [.str "10.1.0.0/16", .str "10.0.0.0/24"], .null, .null⟩,
        ⟨"net-2", "nic-4", [.str "10.2.0.0/16"], .null, .null⟩]
    let client := stocked (interfaces.map Interface.toNic)
    let update (network nic : String) (addresses : List String) : Call := .operation
      (.updateNic (.str "p-1") (.str "eu01") (.str network) (.str nic) (.list (addresses.map .str)))
    client.AlwaysUpdates ∧ ∃ s', (ensureAllowed client.noting (.str "p-1") (.str "eu01") (.str "s-1")
        (.list (["10.0.0.0/24", "10.1.0.0/16", "10.0.0.0/24"].map .str))
        ({ network := "net-1", ids := some ["nic-4"] } : Restriction).toScope).run ((), []) =
      .ok 2 (s', [listingCall (.str "p-1") (.str "eu01") (.str "s-1"),
        update "net-1" "nic-1" ["10.1.0.0/16", "10.0.0.0/24"],
        update "net-2" "nic-4" ["10.2.0.0/16", "10.0.0.0/24", "10.1.0.0/16"]]) := by
  intro interfaces client update
  have hupdates : client.AlwaysUpdates := fun _ _ _ _ _ s => ⟨none, s, rfl⟩
  have hlist : (client.listNics (.str "p-1") (.str "eu01") (.str "s-1")).run () =
      .ok (some (interfaces.map Interface.toNic)) () := rfl
  exact ⟨hupdates, (ensureAllowed_calls (.str "p-1") (.str "eu01") (.str "s-1")
    { network := "net-1", ids := some ["nic-4"] } ["10.0.0.0/24", "10.1.0.0/16", "10.0.0.0/24"]
    hupdates hlist).2.2 (List.cons_ne_nil _ _) (List.cons_ne_nil _ _)⟩

end Machine

end MachineCloud
