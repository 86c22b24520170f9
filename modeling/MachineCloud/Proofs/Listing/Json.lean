import MachineCloud.Listing
import MachineCloud.Proofs.Json.Printing

/-!
# JSON listings

A JSON listing is ASCII and is read back as the list of its items, each with all its fields, in the order in
which they came (`read_ofServers_ofNics`).  Fields may hold whatever JSON can write.  What keeps a listing from
being written is only that lists and maps stand too deep in each other (`asJson_eq_error_iff`).
-/

namespace MachineCloud

/-! ## Depth -/

namespace Value

variable {n : Nat}

theorem depthItems_le_iff {vs : List Value} : depthItems vs ≤ n ↔ ∀ v ∈ vs, v.depth ≤ n := by
  induction vs with
  | nil => simp [depthItems]
  | cons v rest ih => rw [depthItems, Nat.max_le, ih, List.forall_mem_cons]

theorem depthEntries_le_iff {entries : Entries Value} :
    depthEntries entries ≤ n ↔ ∀ p ∈ entries, p.2.depth ≤ n := by
  induction entries with
  | nil => simp [depthEntries]
  | cons p rest ih => rw [depthEntries, Nat.max_le, ih, List.forall_mem_cons]

end Value

namespace Listing

/-! ## Items -/

section

variable {items : List Value}

/-- Only lists and maps that stand too deep in each other keep items from being listed. -/
theorem asJson_eq_error_iff {m : Misfit} :
    asJson items = .error m ↔ m = .nesting ∧ ∃ item ∈ items, maxNesting < item.depth := by
  rw [asJson]
  split
  · next h =>
    simp only [List.all_eq_true, decide_eq_true_eq] at h
    simpa using fun _ => h
  · next h =>
    simp only [List.all_eq_true, decide_eq_true_eq, not_forall, not_le] at h
    obtain ⟨item, hitem, hdeep⟩ := h
    constructor
    · rintro ⟨⟩
      exact ⟨rfl, item, hitem, hdeep⟩
    · rintro ⟨rfl, -⟩
      rfl

/-- Exact items that do not stand too deep are listed in ASCII, and read back. -/
theorem asJson_spec (hexact : ∀ item ∈ items, item.IsExact) (hdepth : ∀ item ∈ items, item.depth ≤ maxNesting) :
    ∃ text, asJson items = .ok text ∧ Json.IsAscii text.toList ∧ Json.read text = .ok (.list items) := by
  have hlist : (Value.list items).IsExact := .list hexact
  have hshallow : (Value.list items).depth ≤ Json.maxDepth := by
    rw [Value.depth]
    exact (Nat.succ_le_succ (Value.depthItems_le_iff.mpr hdepth)).trans (by decide)
  refine ⟨Json.pretty (.list items), if_pos ?_, ?_, Json.read_pretty hlist hshallow⟩
  · simpa using hdepth
  · rw [Json.pretty, String.toList_ofList]
    exact Json.isAscii_indented hlist 0

end

/-! ## Servers and interfaces -/

/-- What a field has to be for its item to be listed: exact, and one level less deep than the item. -/
structure Fits (v : Value) : Prop where
  exact : v.IsExact
  shallow : v.depth < maxNesting

/-- Fields that fit make an item that can be listed. -/
theorem isExact_and_depth_le {entries : Entries Value} (hnodup : entries.keys.Nodup)
    (h : ∀ p ∈ entries, Fits p.2) : (Value.map entries).IsExact ∧ (Value.map entries).depth ≤ maxNesting := by
  refine ⟨.map hnodup fun p hp => (h p hp).exact, ?_⟩
  have hentries := Value.depthEntries_le_iff.mpr fun p hp => Nat.le_pred_of_lt (h p hp).shallow
  rw [Value.depth]
  exact Nat.succ_le_of_lt (Nat.lt_of_le_pred (by decide) hentries)

/-- JSON listings lose nothing: they are ASCII, and read back they are the objects that were listed, whatever
exact values the fields have, as long as lists and maps do not stand too deep in each other. -/
theorem read_ofServers_ofNics (servers : List Server) (nics : List Nic)
    (hservers : ∀ s ∈ servers, ∀ v ∈ [s.id, s.name, s.status, s.labels], Fits v)
    (hnics : ∀ n ∈ nics, ∀ v ∈ [n.id, n.networkId, n.allowedAddresses, n.ipv4, n.mac], Fits v) :
    (∃ text, ofServers .json servers = .ok text ∧ Json.IsAscii text.toList ∧
      Json.read text = .ok (.list (servers.map fun s =>
        .map [("id", s.id), ("name", s.name), ("status", s.status), ("labels", s.labels)]))) ∧
    ∃ text, ofNics .json nics = .ok text ∧ Json.IsAscii text.toList ∧
      Json.read text = .ok (.list (nics.map fun n =>
        .map [("id", n.id), ("network_id", n.networkId), ("allowed_addresses", n.allowedAddresses),
          ("ipv4", n.ipv4), ("mac", n.mac)])) := by
  have hserver : ∀ s ∈ servers, s.toValue.IsExact ∧ s.toValue.depth ≤ maxNesting := fun s hs =>
    isExact_and_depth_le (by simp [Entries.keys]) (by simpa using hservers s hs)
  have hnic : ∀ n ∈ nics, n.toValue.IsExact ∧ n.toValue.depth ≤ maxNesting := fun n hn =>
    isExact_and_depth_le (by simp [Entries.keys]) (by simpa using hnics n hn)
  exact ⟨asJson_spec (List.forall_mem_map.mpr fun s hs => (hserver s hs).1)
      (List.forall_mem_map.mpr fun s hs => (hserver s hs).2),
    asJson_spec (List.forall_mem_map.mpr fun n hn => (hnic n hn).1)
      (List.forall_mem_map.mpr fun n hn => (hnic n hn).2)⟩

/-- Servers and an interface with fields of every kind. -/
theorem read_ofServers_ofNics_of_odd :
    let s : Server := ⟨.str "\x7f\u2028𝔰\"", .int (-12), .bool true, .map [("é\n", .list [.null, .map []])]⟩
    let n : Nic := ⟨.str "nic", .null, .list [.str "10.0.0.0/8", .list []], .str "\x00", .int 0⟩
    ∃ text text', ofServers .json [s, s] = .ok text ∧ ofNics .json [n] = .ok text' ∧
      Json.read text = .ok (.list [s.toValue, s.toValue]) ∧ Json.read text' = .ok (.list [n.toValue]) := by
  intro s n
  have hstr (x : String) : Fits (.str x) := ⟨.str x, by simp [Value.depth, maxNesting]⟩
  have hnull : Fits .null := ⟨.null, by simp [Value.depth, maxNesting]⟩
  have hshort (i : Int) (h : i.natAbs < 100) : Fits (.int i) :=
    ⟨.int (((Nat.length_toDigits_le_iff (k := 2) (by decide) (by decide)).mpr h).trans (by decide)),
      by simp [Value.depth, maxNesting]⟩
  have hservers : ∀ s' ∈ [s, s], ∀ v ∈ [s'.id, s'.name, s'.status, s'.labels], Fits v := by
    have hlabels : Fits s.labels :=
      ⟨by simp [s, Entries.keys],
        by simp [s, Value.depth, Value.depthEntries, Value.depthItems, maxNesting]⟩
    have hbool : Fits (.bool true) := ⟨.bool true, by simp [Value.depth, maxNesting]⟩
    simp [s, hstr, hbool, hshort (-12) (by decide), hlabels]
  have hnics : ∀ n' ∈ [n], ∀ v ∈ [n'.id, n'.networkId, n'.allowedAddresses, n'.ipv4, n'.mac], Fits v := by
    have haddresses : Fits n.allowedAddresses :=
      ⟨by simp [n], by simp [n, Value.depth, Value.depthItems, maxNesting]⟩
    simp [n, hstr, hnull, hshort 0 (by decide), haddresses]
  obtain ⟨⟨text, htext, -, hread⟩, text', htext', -, hread'⟩ := read_ofServers_ofNics _ _ hservers hnics
  exact ⟨text, text', htext, htext', hread, hread'⟩

/-- A server with a status that stands too deep is not listed. -/
theorem ofServers_json_of_deep {s : Server} (hdeep : maxNesting ≤ s.status.depth) :
    ofServers .json [s] = .error .nesting := by
  refine asJson_eq_error_iff.mpr ⟨rfl, s.toValue, List.mem_singleton_self _, ?_⟩
  have hstatus : s.status.depth ≤ Value.depthEntries
      [("id", s.id), ("name", s.name), ("status", s.status), ("labels", s.labels)] :=
    Value.depthEntries_le_iff.mp le_rfl ("status", s.status) (by simp)
  exact Nat.lt_succ_of_le (hdeep.trans hstatus)

/-- A server whose status is a list in a list, and so on, 520 lists in all. -/
def nestedServer : Server where
  id := .str "s-1"
  name := .str "n"
  status := .nested 519

/-- Though JSON could write its fields and read them, there is no JSON listing of it. -/
theorem ofServers_nestedServer :
    (∀ v ∈ [nestedServer.id, nestedServer.name, nestedServer.status, nestedServer.labels],
      v.IsExact ∧ v.depth ≤ Json.maxDepth) ∧
      ¬ ∃ text, ofServers .json [nestedServer] = .ok text := by
  have hstatus : nestedServer.status.depth = 520 := Value.depth_nested 519
  constructor
  · simp only [List.forall_mem_cons, hstatus]
    refine ⟨⟨.str _, ?_⟩, ⟨.str _, ?_⟩, ⟨Value.isExact_nested 519, by decide⟩, ⟨.null, ?_⟩,
      List.forall_mem_nil _⟩
    all_goals simp [nestedServer, Value.depth]
  · rw [ofServers_json_of_deep (hstatus ▸ by decide)]
    simp

end Listing

end MachineCloud
