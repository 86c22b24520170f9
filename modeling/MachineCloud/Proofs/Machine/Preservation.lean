import MachineCloud.Proofs.Api.Address
import MachineCloud.Proofs.Json.Printing
import MachineCloud.Proofs.Lists
import MachineCloud.Proofs.Machine.Merge

/-!
# What requests keep of a listing

The remote client reads the interfaces of a server from the backend's objects, and writes the addresses
of an interface as a whole.  What reading leaves out is lost when the interface is written.  Reading
keeps the texts of an array of addresses and nothing else, so these are what a request keeps
(`patches_keep_texts`).  An array that holds something else loses it (`patches_lose_objects`).
-/

namespace MachineCloud

/-! ## Requests that change an interface -/

/-- The requests among events that change something. -/
def patches (events : List Event) : List Request :=
  events.filterMap fun
    | .request r => if r.method = "PATCH" then some r else none
    | _ => none

theorem patches_append (events more : List Event) :
    patches (events ++ more) = patches events ++ patches more := List.filterMap_append

theorem Authentication.SendsToken.patches_eq_nil {sent : List Event} (h : SendsToken sent) :
    patches sent = [] := by
  rcases h with rfl | ⟨url, assertion, timeout, rfl⟩ <;> rfl

/-- For an inquiry no more than its own request is sent that changes something. -/
theorem Handle.patches_sendInquiry (h : Handle) (i : Inquiry) (w : World) :
    ∃ sent, ((h.sendInquiry i).run w).2.log = w.log ++ sent ∧
      (patches sent = [] ∨
        ∃ authorization, patches sent = patches [.request (i.request h authorization)]) := by
  obtain ⟨tokens, requests, htokens, hrequests, hlog⟩ := h.log_sendInquiry i w
  refine ⟨tokens ++ requests, hlog, ?_⟩
  rw [patches_append, htokens.patches_eq_nil, List.nil_append]
  rcases hrequests with rfl | ⟨authorization, rfl⟩
  · exact .inl rfl
  · exact .inr ⟨authorization, rfl⟩

/-- For an operation no more than the request of its inquiry is sent that changes something. -/
theorem Operation.patches_perform (h : Handle) (op : Operation) (w : World) :
    ∃ sent, ((op.perform (Remote.client h)).run w).2.log = w.log ++ sent ∧
      (patches sent = [] ∨ ∃ i authorization, op.inquiry = .ok i ∧
        patches sent = patches [.request (i.request h authorization)]) := by
  cases hinquiry : op.inquiry with
  | error failure =>
    rw [run_perform_of_error h hinquiry]
    exact ⟨[], (List.append_nil _).symm, .inl rfl⟩
  | ok i =>
    rw [run_perform h hinquiry]
    obtain ⟨sent, hlog, hsent⟩ := h.patches_sendInquiry i w
    refine ⟨sent, hlog, hsent.imp_right fun ⟨authorization, hpatches⟩ => ?_⟩
    exact ⟨i, authorization, rfl, hpatches⟩

namespace Machine

variable (h : Handle) (project region : Value)

/-- Whether a request gives the interface `nic` the addresses. -/
def Writes (nic : Nic) (addresses : List Value) (r : Request) : Prop :=
  (∃ path, Handle.path project region [.str "networks", nic.networkId, .str "nics", nic.id] =
    .ok path ∧ r.url = h.endpoint ++ "/" ++ path) ∧
  r.payload = some (.map [("allowedAddresses", .list addresses)])

/-- An update of an interface sends at most the request that gives it the addresses. -/
theorem patches_updateNic (nic : Nic) (addresses : List Value) (w : World) :
    ∃ sent, (((Remote.client h).updateNic project region nic.networkId nic.id
        (.list addresses)).run w).2.log = w.log ++ sent ∧
      (patches sent = [] ∨
        ∃ r, patches sent = [r] ∧ Writes h project region nic addresses r) := by
  obtain ⟨sent, hlog, hpatches⟩ := (Operation.updateNic project region nic.networkId nic.id
    (.list addresses)).patches_perform h w
  rw [Operation.perform, Action.run_map] at hlog
  refine ⟨sent, hlog, hpatches.imp_right ?_⟩
  rintro ⟨i, authorization, hinquiry, hrequest⟩
  rw [Operation.inquiry, Remote.addressPayload_list] at hinquiry
  obtain ⟨payload, hpayload, hinquiry⟩ := exists_of_bind_eq_ok hinquiry
  obtain ⟨path, hpath, hinquiry⟩ := exists_of_bind_eq_ok hinquiry
  cases hpayload
  cases hinquiry
  exact ⟨_, hrequest, ⟨path, Failure.eq_ok_of_orThrow hpath, rfl⟩, rfl⟩

/-- A listing of interfaces changes nothing. -/
theorem patches_listNics (server : Value) (w : World) :
    ∃ sent, (((Remote.client h).listNics project region server).run w).2.log = w.log ++ sent ∧
      patches sent = [] := by
  obtain ⟨sent, hlog, hpatches⟩ := (Operation.listNics project region server).patches_perform h w
  rw [Operation.perform, Action.run_map] at hlog
  refine ⟨sent, hlog, hpatches.elim id ?_⟩
  rintro ⟨i, authorization, hinquiry, hrequest⟩
  obtain ⟨path, -, hinquiry⟩ := exists_of_bind_eq_ok hinquiry
  cases hinquiry
  exact hrequest

/-- Whether a request makes the update that an interface needs. -/
def Updates (scope : Scope) (wanted : Value) (r : Request) (nic : Nic) : Prop :=
  ∃ addresses, addressUpdate scope wanted nic = .ok (some addresses) ∧
    Writes h project region nic addresses r

/-- A pass over interfaces sends requests that change something for some of them, in their order, and
each makes the update of its interface. -/
theorem patches_updateAll (scope : Scope) (wanted : Value) (nics : List Nic) (w : World) :
    ∃ sent, ((updateAll (Remote.client h) project region scope wanted nics).run w).2.log =
        w.log ++ sent ∧
      List.SublistForall₂ (Updates h project region scope wanted) (patches sent) nics := by
  induction nics generalizing w with
  | nil => exact ⟨[], (List.append_nil _).symm, .nil⟩
  | cons nic rest ih =>
    rw [updateAll]
    cases hupdate : addressUpdate scope wanted nic with
    | error misfit => exact ⟨[], (List.append_nil _).symm, .nil⟩
    | ok update =>
      cases update with
      | none =>
        obtain ⟨sent, hlog, hrest⟩ := ih w
        exact ⟨sent, hlog, .cons_right hrest⟩
      | some addresses =>
        obtain ⟨sent, hlog, hsent⟩ := patches_updateNic h project region nic addresses w
        have hcons {rs : List Request}
            (hrest : List.SublistForall₂ (Updates h project region scope wanted) rs rest) :
            List.SublistForall₂ (Updates h project region scope wanted) (patches sent ++ rs)
              (nic :: rest) := by
          rcases hsent with hnone | ⟨r, hone, hwrites⟩
          · rw [hnone]
            exact .cons_right hrest
          · rw [hone]
            exact .cons ⟨addresses, hupdate, hwrites⟩ hrest
        rw [Failure.orThrow, pure_bind, Action.run_bind]
        generalize ((Remote.client h).updateNic project region nic.networkId nic.id
          (.list addresses)).run w = ran at hlog ⊢
        rcases ran with ⟨failure | _, w'⟩
        · have hnil := hcons .nil
          rw [List.append_nil] at hnil
          exact ⟨sent, hlog, hnil⟩
        · obtain ⟨sent', hlog', hrest⟩ := ih w'
          refine ⟨sent ++ sent', ?_, patches_append sent sent' ▸ hcons hrest⟩
          change w'.log = _ at hlog
          simp only [bind_pure_comp, Action.run_map, hlog', hlog, List.append_assoc]

/-- A run of `ensureAllowed` on listed interfaces. -/
theorem patches_ensureAllowed (server wanted : Value) (scope : Scope) (w : World) :
    ∃ sent, ((ensureAllowed (Remote.client h) project region server wanted scope).run w).2.log =
        w.log ++ sent ∧
      (patches sent = [] ∨ ∃ nics,
        (((Remote.client h).listNics project region server).run w).1 = .ok (some nics) ∧
        List.SublistForall₂ (Updates h project region scope wanted) (patches sent) nics) := by
  rw [ensureAllowed]
  split
  · exact ⟨[], (List.append_nil _).symm, .inl rfl⟩
  · obtain ⟨sent, hlog, hnone⟩ := patches_listNics h project region server w
    rw [Action.run_bind]
    generalize ((Remote.client h).listNics project region server).run w = ran at hlog ⊢
    rcases ran with ⟨failure | listed, w'⟩
    · exact ⟨sent, hlog, .inl hnone⟩
    · change w'.log = _ at hlog
      rcases listed with _ | _ | ⟨nic, rest⟩
      · exact ⟨sent, hlog, .inl hnone⟩
      · exact ⟨sent, hlog, .inl hnone⟩
      · obtain ⟨sent', hlog', hpatches⟩ :=
          patches_updateAll h project region scope wanted (nic :: rest) w'
        refine ⟨sent ++ sent', ?_, .inr ⟨nic :: rest, rfl, ?_⟩⟩
        · rw [← List.append_assoc, ← hlog]
          exact hlog'
        · rw [patches_append, hnone]
          exact hpatches

/-! ## What is kept -/

/-- The addresses that a backend's object holds in its array, none if it has no array. -/
def held? : Value → Option (List Value)
  | .map members =>
    match member members "allowedAddresses" with
    | .list items => some items
    | .null => some []
    | _ => none
  | _ => none

/-- Reading an object keeps the texts of its array. -/
theorem allowedAddresses_of_held? {item : Value} {held : List Value} {nic : Nic}
    (hheld : held? item = some held) (hnic : Nic.fromWire item = .ok nic) :
    nic.allowedAddresses = .list (held.filter Value.isStr) := by
  cases item with
  | map members =>
    rw [held?] at hheld
    have hitems : ((member members "allowedAddresses").orElse (.list [])).asItems = .ok held := by
      split at hheld
      · next items hlist =>
        cases hheld
        rw [hlist]
        rcases held with _ | ⟨first, rest⟩ <;> rfl
      · next hnull =>
        cases hheld
        rw [hnull]
        rfl
      · cases hheld
    rw [Nic.fromWire, Value.asMap] at hnic
    change (((member members "allowedAddresses").orElse (.list [])).asItems >>= fun allowed =>
      pure _) = _ at hnic
    rw [hitems] at hnic
    cases hnic
    rfl
  | null | bool | int | float | str | list => cases hheld

/-- The addresses of an update are those of the interface with the wanted ones merged in. -/
theorem eq_merge_of_addressUpdate {scope : Scope} {wanted existing addresses : List Value} {nic : Nic}
    (hnic : nic.allowedAddresses = .list existing)
    (hupdate : addressUpdate scope (.list wanted) nic = .ok (some addresses)) :
    addresses = merge existing wanted := by
  rw [addressUpdate, hnic] at hupdate
  obtain ⟨admitted, -, hupdate⟩ := exists_of_bind_eq_ok hupdate
  cases admitted with
  | false => cases hupdate
  | true =>
    change (if (merge existing wanted).length = existing.length then pure none
      else pure (some (merge existing wanted)) : Except Misfit _) = _ at hupdate
    split at hupdate <;> cases hupdate
    rfl

/-- The items of the listing that the backend gives, none if it gives no listing. -/
def listing (h : Handle) (project region server : Value) (w : World) : List Value :=
  match ((h.listNics project region server).run w).1 with
  | .ok data => (Remote.itemsOf data).toOption.getD []
  | .error _ => []

/-- Interfaces that are listed are those that the items describe. -/
theorem fromWire_of_listNics (server : Value) {w : World} {nics : List Nic}
    (hnics : (((Remote.client h).listNics project region server).run w).1 = .ok (some nics)) :
    List.Forall₂ (fun item nic => Nic.fromWire item = .ok nic) (listing h project region server w)
      nics := by
  change ((h.listNics project region server >>= fun data =>
    some <$> Action.ofMisfit (Remote.nicsOf data)).run w).1 = _ at hnics
  obtain ⟨data, w', hrun, hnics⟩ := Action.exists_of_run_bind_eq_ok hnics
  rw [listing, hrun]
  change List.Forall₂ _ ((Remote.itemsOf data).toOption.getD []) nics
  rw [Action.run_map] at hnics
  cases hread : Remote.nicsOf data with
  | error misfit =>
    rw [hread] at hnics
    cases hnics
  | ok nics' =>
    rw [hread] at hnics
    cases hnics
    obtain ⟨items, hitems, hmap⟩ := exists_of_bind_eq_ok hread
    rw [hitems]
    exact forall₂_of_mapM hmap

/-- Whether a request is for the interface that a backend's object describes, and its payload has the
kept ones among the addresses that the object holds, in their order, and the wanted ones. -/
def Keeps (kept : Value → Bool) (h : Handle) (project region : Value) (wanted : List String)
    (r : Request) (item : Value) : Prop :=
  ∃ nic held addresses, Nic.fromWire item = .ok nic ∧ held? item = some held ∧
    Writes h project region nic addresses r ∧
    (held.filter kept).Sublist addresses ∧ ∀ s ∈ wanted, .str s ∈ addresses

theorem keeps_of_updates {h : Handle} {project region : Value} {scope : Scope} {wanted : List String}
    {r : Request} {item : Value} {nic : Nic} (hheld : (held? item).isSome)
    (hnic : Nic.fromWire item = .ok nic)
    (hupdates : Updates h project region scope (.list (wanted.map .str)) r nic) :
    Keeps Value.isStr h project region wanted r item := by
  obtain ⟨addresses, hupdate, hwrites⟩ := hupdates
  obtain ⟨held, hheld⟩ := Option.isSome_iff_exists.mp hheld
  obtain rfl := eq_merge_of_addressUpdate (allowedAddresses_of_held? hheld hnic) hupdate
  refine ⟨nic, held, _, hnic, hheld, hwrites, ?_, ?_⟩
  · exact (prefix_merge _ _).sublist
  · intro s hs
    exact mem_merge.mpr (.inr (List.mem_map_of_mem hs))

/-- The requests of a run of `ensureAllowed` that change something are for some of the listed
interfaces, in their order.  Each of them keeps the texts that the backend holds for its interface. -/
theorem patches_keep_texts (h : Handle) (project region server : String) (wanted : List String)
    (scope : Scope) (w : World)
    (hheld : ∀ item ∈ listing h (.str project) (.str region) (.str server) w, (held? item).isSome) :
    let ran := (ensureAllowed (Remote.client h) (.str project) (.str region) (.str server)
      (.list (wanted.map .str)) scope).run w
    List.SublistForall₂ (Keeps Value.isStr h (.str project) (.str region) wanted)
      (patches (ran.2.log.drop w.log.length))
      (listing h (.str project) (.str region) (.str server) w) := by
  intro ran
  obtain ⟨sent, hlog, hpatches⟩ := patches_ensureAllowed h (.str project) (.str region)
    (.str server) (.list (wanted.map .str)) scope w
  have hsent : ran.2.log.drop w.log.length = sent := by
    rw [hlog, List.drop_left]
  rw [hsent]
  rcases hpatches with hnone | ⟨nics, hnics, hpatches⟩
  · rw [hnone]
    exact .nil
  · have hitems := fromWire_of_listNics h (.str project) (.str region) (.str server) hnics
    have hboth := (List.forall₂_and_left _ _).mpr ⟨hheld, hitems⟩
    refine sublistForall₂_of_forall₂ ?_ hpatches hboth
    rintro r nic item hupdates ⟨hheld, hitem⟩
    exact keeps_of_updates hheld hitem hupdates

/-! ## An array that holds an object -/

/-- A backend's object for an interface whose array holds an address and an object. -/
def mixedItem : Value :=
  .map [("id", .str "nic-1"), ("networkId", .str "net-1"),
    ("allowedAddresses", .list [.str "10.0.0.0/24", .map [("cidr", .str "x")]])]

/-- A listing of just that interface. -/
def mixedListing : Value := .map [("items", .list [mixedItem])]

/-- That listing as it is sent. -/
def mixedBody : Bytes := Utf8.encodeChars (Json.compact mixedListing)

/-- A handle that needs no authorization. -/
def plain : Handle := ⟨"https://api.test", .none, 30, true⟩

/-- A world in which the listing is the first answer and there is one more. -/
def mixed : World := { outcomes := [.response 200 "OK" mixedBody, .response 200 "OK" []] }

/-- The call that asks for the listing. -/
def asking : ApiCall := .listNics "p-1" "eu01" "s-1"

/-- That world after the listing. -/
def listed : World where
  outcomes := [.response 200 "OK" []]
  log := [.request (asking.inquiry.request plain none)]

theorem bodyValue_mixed : Http.bodyValue mixedBody = .ok mixedListing := by
  have htext : Http.bodyText mixedBody = String.ofList (Json.compact mixedListing) := by
    decide +kernel
  rw [Http.bodyValue, htext]
  exact Json.read_compact (by simp [mixedListing, mixedItem, Entries.keys]) (by decide)

theorem run_listNics_mixed :
    (plain.listNics (.str "p-1") (.str "eu01") (.str "s-1")).run mixed = (.ok mixedListing, listed) := by
  have hauthorized : plain.authentication.authorization.run mixed = (.ok none, mixed) := rfl
  have hcontent : Handle.content (Action.upcoming mixed) = .ok mixedListing := by
    change Http.content 200 "OK" mixedBody = _
    rw [Http.content, bodyValue_mixed]
    rfl
  have hasking : plain.listNics (.str "p-1") (.str "eu01") (.str "s-1") = asking.perform plain := rfl
  rw [hasking, ApiCall.perform_eq, Action.run_map, Handle.sendInquiry,
    Handle.run_send_of_authorized plain _ _ _ _ hauthorized, hcontent]
  rfl

theorem listing_mixed :
    listing plain (.str "p-1") (.str "eu01") (.str "s-1") mixed = [mixedItem] := by
  rw [listing, run_listNics_mixed]
  rfl

theorem isSome_held?_mixed :
    ∀ item ∈ listing plain (.str "p-1") (.str "eu01") (.str "s-1") mixed,
      (held? item).isSome := by
  intro item hitem
  rw [listing_mixed] at hitem
  cases List.mem_singleton.mp hitem
  rfl

/-- The requests of a run in that world that change something. -/
def mixedPatches : List Request :=
  let ran := (ensureAllowed (Remote.client plain) (.str "p-1") (.str "eu01") (.str "s-1")
    (.list (["10.1.0.0/16"].map .str)) {}).run mixed
  patches (ran.2.log.drop mixed.log.length)

/-- The interface gets one request, without the object. -/
theorem payload_mixed : mixedPatches.map Request.payload =
    [some (.map [("allowedAddresses", .list [.str "10.0.0.0/24", .str "10.1.0.0/16"])])] := by
  have hlist : ((Remote.client plain).listNics (.str "p-1") (.str "eu01") (.str "s-1")).run mixed =
      (.ok (some [⟨.str "nic-1", .str "net-1", .list [.str "10.0.0.0/24"], .null, .null⟩]),
        listed) := by
    have hclient : (Remote.client plain).listNics (.str "p-1") (.str "eu01") (.str "s-1") =
        (plain.listNics (.str "p-1") (.str "eu01") (.str "s-1") >>= fun data =>
          some <$> Action.ofMisfit (Remote.nicsOf data)) := rfl
    rw [hclient, Action.run_bind_ok run_listNics_mixed]
    rfl
  rw [mixedPatches, ensureAllowed, if_neg (by decide), Action.run_bind_ok hlist]
  rfl

theorem keeps_mixed {kept : Value → Bool}
    (hkeep : List.SublistForall₂ (Keeps kept plain (.str "p-1") (.str "eu01") ["10.1.0.0/16"])
      mixedPatches (listing plain (.str "p-1") (.str "eu01") (.str "s-1") mixed)) :
    ∃ r, r.payload =
        some (.map [("allowedAddresses", .list [.str "10.0.0.0/24", .str "10.1.0.0/16"])]) ∧
      Keeps kept plain (.str "p-1") (.str "eu01") ["10.1.0.0/16"] r mixedItem := by
  obtain ⟨r, hpatches, hpayload⟩ := List.map_eq_singleton_iff.mp payload_mixed
  rw [listing_mixed, hpatches] at hkeep
  cases hkeep with
  | cons hr _ => exact ⟨r, hpayload, hr⟩
  | cons_right hnone => cases hnone

/-- The request for that interface keeps the address. -/
theorem patches_keep_texts_of_mixed :
    (∀ item ∈ listing plain (.str "p-1") (.str "eu01") (.str "s-1") mixed,
      (held? item).isSome) ∧
    ∃ r, r.payload =
        some (.map [("allowedAddresses", .list [.str "10.0.0.0/24", .str "10.1.0.0/16"])]) ∧
      Keeps Value.isStr plain (.str "p-1") (.str "eu01") ["10.1.0.0/16"] r mixedItem := by
  refine ⟨isSome_held?_mixed, keeps_mixed ?_⟩
  exact patches_keep_texts plain "p-1" "eu01" "s-1" ["10.1.0.0/16"] {} mixed isSome_held?_mixed

/-- Requests do not keep everything that the backend holds. -/
theorem patches_lose_objects :
    ¬ ∀ (h : Handle) (project region server : String) (wanted : List String) (scope : Scope)
      (w : World), wanted ≠ [] →
      (∀ item ∈ listing h (.str project) (.str region) (.str server) w, (held? item).isSome) →
      let ran := (ensureAllowed (Remote.client h) (.str project) (.str region) (.str server)
        (.list (wanted.map .str)) scope).run w
      List.SublistForall₂ (Keeps (fun _ => true) h (.str project) (.str region) wanted)
        (patches (ran.2.log.drop w.log.length))
        (listing h (.str project) (.str region) (.str server) w) := by
  intro hall
  have hkeep := hall plain "p-1" "eu01" "s-1" ["10.1.0.0/16"] {} mixed (List.cons_ne_nil _ _)
    isSome_held?_mixed
  obtain ⟨r, hpayload, nic, held, addresses, -, hheld, ⟨-, haddresses⟩, hsub, -⟩ := keeps_mixed hkeep
  cases hheld
  cases hpayload.symm.trans haddresses
  -- Both lists have two members, so the request would have to send the object.
  cases hsub.eq_of_length rfl

end Machine

end MachineCloud
