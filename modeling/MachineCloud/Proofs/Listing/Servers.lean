import Mathlib.Data.String.Basic
import MachineCloud.Listing
import MachineCloud.Proofs.Listing.Order
import MachineCloud.Proofs.Server.Spec

/-!
# Listings of servers

For servers with texts in their fields, the list and the table show the same servers in the same order:
sorted by name, those with one name as they came, and in the list each with its labels in the order of their
keys (`ofServers_spec`).  With no name twice, neither text depends on the order in which the servers and
their labels came.
-/

namespace MachineCloud

/-- A server as the backend should describe it: with texts in its fields, and labels that are texts or
absent. -/
structure PlainServer where
  id : String
  name : String
  status : String
  labels : Option TextMap := none

namespace PlainServer

def toServer (s : PlainServer) : Server where
  id := .str s.id
  name := .str s.name
  status := .str s.status
  labels := .ofOption (s.labels.map TextMap.toValue)

/-- The labels, none if they are absent. -/
def labelEntries (s : PlainServer) : Entries String := (s.labels.map TextMap.entries).getD []

/-- The labels in the order of their keys. -/
def sortedLabels (s : PlainServer) : Entries String :=
  s.labelEntries.mergeSort fun p q => decide (p.1 ≤ q.1)

/-- The lines of the list for a server. -/
def listed (s : PlainServer) : List String :=
  s!"- {s.name} ({s.id}) [{s.status}]" :: s.sortedLabels.map fun p => s!"    {p.1}={p.2}"

/-- The line of the table for a server: three columns, with a blank between them. -/
def tabled (s : PlainServer) : String :=
  String.ofList (s.id.toList.rightpad 38 ' ') ++ " " ++
    String.ofList (s.name.toList.rightpad 30 ' ') ++ " " ++
    String.ofList (s.status.toList.rightpad 12 ' ')

/-- What either text shows of a server, with its name. -/
def shown (s : PlainServer) : String × List String × String := (s.name, s.listed, s.tabled)

/-! ## Labels -/

variable {s s' : PlainServer}

theorem nodup_labelEntries (s : PlainServer) : s.labelEntries.keys.Nodup := by
  rcases h : s.labels with _ | m
  · simp [labelEntries, h, Entries.keys]
  · simpa [labelEntries, h] using m.nodup

/-- The labels are shown once each, in increasing order of their keys. -/
theorem sortedLabels_spec (s : PlainServer) :
    s.sortedLabels.Perm s.labelEntries ∧ s.sortedLabels.Pairwise fun p q => p.1 < q.1 := by
  have hperm : s.sortedLabels.Perm s.labelEntries := List.mergeSort_perm _ _
  refine ⟨hperm, ?_⟩
  have hle : s.sortedLabels.Pairwise fun p q => p.1 ≤ q.1 := by
    have hsorted : s.sortedLabels.Pairwise fun p q => decide (p.1 ≤ q.1) = true :=
      List.pairwise_mergeSort (by simpa using fun a b c => le_trans) (by simp [le_total]) s.labelEntries
    exact hsorted.imp (by simp)
  have hne : s.sortedLabels.Pairwise fun p q => p.1 ≠ q.1 := by
    have hkeys : (s.sortedLabels.map Prod.fst).Nodup := (hperm.map Prod.fst).nodup_iff.mpr s.nodup_labelEntries
    exact List.pairwise_map.mp hkeys
  exact hle.imp₂ (fun _ _ => lt_of_le_of_ne) hne

/-- In no other order do they increase. -/
theorem sortedLabels_eq_of_pairwise {entries : Entries String} (hperm : entries.Perm s.labelEntries)
    (hsorted : entries.Pairwise fun p q => p.1 < q.1) : s.sortedLabels = entries := by
  obtain ⟨hperm', hsorted'⟩ := s.sortedLabels_spec
  exact List.Perm.eq_of_pairwise (fun a b _ _ hab hba => absurd hba (lt_asymm hab)) hsorted' hsorted
    (hperm'.trans hperm.symm)

/-- The order in which the labels came does not matter. -/
theorem sortedLabels_eq (h : s.labelEntries.Perm s'.labelEntries) : s.sortedLabels = s'.sortedLabels := by
  obtain ⟨hperm, hsorted⟩ := s'.sortedLabels_spec
  exact sortedLabels_eq_of_pairwise (hperm.trans h.symm) hsorted

/-! ## Lines -/

theorem labelLines_toServer (s : PlainServer) :
    Listing.labelLines s.toServer.labels = .ok (s.sortedLabels.map fun p => s!"    {p.1}={p.2}") := by
  have hentries : (s.toServer.labels.orElse (.map [])).asMap "items" =
      .ok (s.labelEntries.map fun p => (p.1, .str p.2)) := by
    rcases h : s.labels with _ | ⟨_ | ⟨p, rest⟩, hnodup⟩
    all_goals simp [toServer, labelEntries, h, TextMap.toValue, Value.ofOption, Value.orElse,
      Value.isTruthy, Value.asMap]
  have hsort : (s.labelEntries.map fun p => (p.1, Value.str p.2)).mergeSort (fun p q => decide (p.1 ≤ q.1)) =
      s.sortedLabels.map fun p => (p.1, Value.str p.2) := by
    rw [sortedLabels, List.map_mergeSort]
    exact fun _ _ _ _ => rfl
  rw [Listing.labelLines, hentries]
  change Except.ok (List.map _ (List.mergeSort _ _)) = _
  rw [hsort, List.map_map]
  rfl

theorem serverLines_toServer (s : PlainServer) : Listing.serverLines s.toServer = .ok s.listed := by
  rw [Listing.serverLines, labelLines_toServer]
  rfl

theorem pad_eq (width : Nat) (s : String) :
    Listing.pad width s = String.ofList (s.toList.rightpad width ' ') := by
  rw [Listing.pad, List.rightpad, String.ofList_append, String.ofList_toList, String.length_toList]

theorem serverRow_str (id name status : String) :
    Listing.serverRow (.str id) (.str name) (.str status) = .ok (tabled ⟨id, name, status, none⟩) := by
  rw [tabled, ← pad_eq, ← pad_eq, ← pad_eq]
  rfl

theorem serverRow_toServer (s : PlainServer) :
    Listing.serverRow s.toServer.id s.toServer.name s.toServer.status = .ok s.tabled :=
  serverRow_str s.id s.name s.status

end PlainServer

namespace Listing

open PlainServer

/-! ## Listings -/

variable {servers servers' : List PlainServer}

theorem mapM_toServer {γ : Type} {f : Server → Except Misfit γ} {g : PlainServer → γ}
    (h : ∀ s, f s.toServer = .ok (g s)) (servers : List PlainServer) :
    (servers.map toServer).mapM f = .ok (servers.map g) := by
  rw [List.mapM_map]
  simp only [Function.comp_def, h]
  exact List.mapM_pure

/-- The lines above the servers in the table. -/
def heading : List String := [
  "\nID                                     NAME                           STATUS      ",
  String.ofList (List.replicate 80 '=')]

/-- Both texts are made of the servers in one order: sorted by name, those with one name as they came. -/
theorem exists_ofServers (hne : servers ≠ []) :
    ∃ sorted, Order.IsSortOf PlainServer.name sorted servers ∧
      ofServers .list (servers.map toServer) = .ok (String.intercalate "\n" (sorted.flatMap listed)) ∧
      ofServers .table (servers.map toServer) =
        .ok (String.intercalate "\n" (heading ++ sorted.map tabled)) := by
  have hcompares : Order.Compares (fun s t : Server => s.name.before t.name) toServer PlainServer.name :=
    fun s t => by simp [toServer, Value.before]
  obtain ⟨sorted, hsort, hsorted⟩ := Order.exists_sort hcompares servers
  have hsome : (servers.map toServer).isEmpty = false := by simpa using hne
  have hblocks : (sorted.map toServer).mapM serverLines = .ok (sorted.map listed) :=
    mapM_toServer serverLines_toServer sorted
  have hrows : (sorted.map toServer).mapM (fun s => serverRow s.id s.name s.status) = .ok (sorted.map tabled) :=
    mapM_toServer serverRow_toServer sorted
  refine ⟨sorted, hsorted, ?_, ?_⟩
  · rw [ofServers, hsome, byName, hsort, List.flatMap_def]
    change (do return lines (← (sorted.map toServer).mapM serverLines).flatten : Except Misfit String) = _
    rw [hblocks]
    rfl
  · rw [ofServers, hsome, byName, hsort]
    change (do
      let header ← serverRow (.str "ID") (.str "NAME") (.str "STATUS")
      let rows ← (sorted.map toServer).mapM fun s => serverRow s.id s.name s.status
      return lines (("\n" ++ header) :: rule 80 :: rows) : Except Misfit String) = _
    have hheading : heading = ["\n" ++ tabled ⟨"ID", "NAME", "STATUS", none⟩, rule 80] := by decide +kernel
    rw [hrows, serverRow_str, hheading]
    rfl

/-- Two servers that differ only in the order of their labels. -/
structure SameButOrder (s s' : PlainServer) : Prop where
  id : s'.id = s.id
  name : s'.name = s.name
  status : s'.status = s.status
  labels : s'.labelEntries.Perm s.labelEntries

/-- The same servers in any order, with their labels in any order. -/
def Rearranged (servers servers' : List PlainServer) : Prop :=
  ∃ between, between.Perm servers ∧ List.Forall₂ SameButOrder between servers'

theorem SameButOrder.shown_eq {s s' : PlainServer} (h : SameButOrder s s') : s'.shown = s.shown := by
  rw [shown, shown, listed, listed, tabled, tabled, h.id, h.name, h.status, sortedLabels_eq h.labels]

/-- Of rearranged servers the same is shown, up to the order. -/
theorem Rearranged.perm_shown (h : Rearranged servers servers') :
    (servers'.map shown).Perm (servers.map shown) := by
  obtain ⟨between, hperm, hsame⟩ := h
  have hmap : servers'.map shown = between.map shown := by
    clear hperm
    induction hsame with
    | nil => rfl
    | cons h _ ih => rw [List.map_cons, List.map_cons, h.shown_eq, ih]
  rw [hmap]
  exact hperm.map shown

/-- The list and the table show all servers, once each and in one order: by name, and those with one name as
they came.  In the list there are all labels of each server after it, one on a line, in increasing order of
their keys.  If no name comes twice, then it does not matter for either text in which order the servers came,
or the labels of any server. -/
theorem ofServers_spec (hne : servers ≠ []) :
    (∃ sorted, Order.IsSortOf PlainServer.name sorted servers ∧
      ofServers .list (servers.map toServer) = .ok (String.intercalate "\n" (sorted.flatMap fun s =>
        s!"- {s.name} ({s.id}) [{s.status}]" :: s.sortedLabels.map fun p => s!"    {p.1}={p.2}")) ∧
      ofServers .table (servers.map toServer) = .ok (String.intercalate "\n" (
        "\nID                                     NAME                           STATUS      " ::
        String.ofList (List.replicate 80 '=') :: sorted.map fun s =>
          String.ofList (s.id.toList.rightpad 38 ' ') ++ " " ++
            String.ofList (s.name.toList.rightpad 30 ' ') ++ " " ++
            String.ofList (s.status.toList.rightpad 12 ' ')))) ∧
    (∀ s ∈ servers, s.sortedLabels.Perm s.labelEntries ∧ s.sortedLabels.Pairwise fun p q => p.1 < q.1) ∧
    ((servers.map PlainServer.name).Nodup → ∀ servers', Rearranged servers servers' →
      ofServers .list (servers'.map toServer) = ofServers .list (servers.map toServer) ∧
      ofServers .table (servers'.map toServer) = ofServers .table (servers.map toServer)) := by
  refine ⟨exists_ofServers hne, fun s _ => s.sortedLabels_spec, fun hdistinct servers' hrearranged => ?_⟩
  have hne' : servers' ≠ [] := by
    rintro rfl
    exact hne (List.map_eq_nil_iff.mp hrearranged.perm_shown.symm.eq_nil)
  obtain ⟨sorted, hsorted, hlist, htable⟩ := exists_ofServers hne
  obtain ⟨sorted', hsorted', hlist', htable'⟩ := exists_ofServers hne'
  have heq := hsorted.map_eq hsorted' Prod.fst (fun _ => rfl) hdistinct hrearranged.perm_shown
  have hlisted : sorted'.map listed = sorted.map listed := by
    simpa [shown, Function.comp_def] using congrArg (List.map fun x => x.2.1) heq
  have htabled : sorted'.map tabled = sorted.map tabled := by
    simpa [shown, Function.comp_def] using congrArg (List.map fun x => x.2.2) heq
  rw [hlist, hlist', htable, htable', List.flatMap_def, List.flatMap_def, hlisted, htabled]
  exact ⟨rfl, rfl⟩

/-- Two servers, and the same two the other way round with the labels of one of them the other way round. -/
theorem ofServers_spec_of_two :
    let db : PlainServer := ⟨"2", "db", "ACTIVE", none⟩
    let web : PlainServer := ⟨"1", "web", "ACTIVE", some ⟨[("é", "ü"), ("tier", "2")], by decide⟩⟩
    let web' : PlainServer := ⟨"1", "web", "ACTIVE", some ⟨[("tier", "2"), ("é", "ü")], by decide⟩⟩
    let list := "- db (2) [ACTIVE]\n- web (1) [ACTIVE]\n    tier=2\n    é=ü"
    let table := String.intercalate "\n" [
      "",
      "ID                                     NAME                           STATUS      ",
      "================================================================================",
      "2                                      db                             ACTIVE      ",
      "1                                      web                            ACTIVE      "]
    [web, db] ≠ [] ∧ ([web, db].map PlainServer.name).Nodup ∧ Rearranged [web, db] [db, web'] ∧
      ofServers .list [web.toServer, db.toServer] = .ok list ∧
      ofServers .table [web.toServer, db.toServer] = .ok table ∧
      ofServers .list [db.toServer, web'.toServer] = .ok list ∧
      ofServers .table [db.toServer, web'.toServer] = .ok table := by
  intro db web web' list table
  have hdistinct : ([web, db].map PlainServer.name).Nodup := by simp [web, db]
  have hrearranged : Rearranged [web, db] [db, web'] :=
    ⟨[db, web], .swap _ _ _, .cons ⟨rfl, rfl, rfl, .refl _⟩ (.cons ⟨rfl, rfl, rfl, .swap _ _ _⟩ .nil)⟩
  have hne : [web, db] ≠ [] := List.cons_ne_nil _ _
  obtain ⟨⟨sorted, hsorted, hlist, htable⟩, -, hsame⟩ := ofServers_spec hne
  obtain ⟨hlist', htable'⟩ := hsame hdistinct _ hrearranged
  have hfalls : Order.IsSortOf PlainServer.name [db, web] [web, db] :=
    .of_falling (.cons_cons (by decide) (.singleton db))
  have hmap : [db, web].map (fun s => s) = sorted.map fun s => s :=
    hsorted.map_eq hfalls PlainServer.name (fun _ => rfl) hdistinct (.refl _)
  obtain rfl : [db, web] = sorted := by rwa [List.map_id', List.map_id'] at hmap
  have hdb : db.sortedLabels = [] := sortedLabels_eq_of_pairwise .nil .nil
  have hweb : web.sortedLabels = [("tier", "2"), ("é", "ü")] :=
    sortedLabels_eq_of_pairwise (.swap _ _ _) (by decide)
  simp only [List.flatMap_cons, List.flatMap_nil, hdb, hweb] at hlist
  replace hlist := hlist.trans (congrArg Except.ok (show _ = list by decide +kernel))
  replace htable := htable.trans (congrArg Except.ok (show _ = table by decide +kernel))
  exact ⟨hne, hdistinct, hrearranged, hlist, htable, hlist'.trans hlist, htable'.trans htable⟩

end Listing

end MachineCloud
