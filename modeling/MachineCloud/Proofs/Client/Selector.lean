import Mathlib.Data.List.Nodup
import Mathlib.Data.List.TakeWhile
import MachineCloud.Command.Run
import MachineCloud.Proofs.Api.Address
import MachineCloud.Proofs.Entries
import MachineCloud.Proofs.Lists

/-!
# What a label selector says

Labels go to the API as one text, `key=value` pairs with commas between them.  The API cuts the text at
its commas and each piece at its first equal sign.  Nothing is quoted, so that a comma in a key or in a
value is taken for one between two pairs.  A selector therefore says what was asked for exactly if no
label has a comma in it (`Selector.labels?_text_iff`).  An equal sign does no harm, since no key has one.
-/

namespace MachineCloud

/-! ## Reading a selector -/

namespace Selector

/-- The label that a piece of a selector gives: what stands before its first equal sign, and what stands
behind it. -/
def label (piece : List Char) : String × String :=
  (String.ofList (piece.takeWhile (· ≠ '=')), String.ofList (piece.dropWhile (· ≠ '=')).tail)

/-- The labels that a selector gives, cut at its commas.  A piece without an equal sign is no label. -/
def labels? (selector : String) : Option (Entries String) :=
  let pieces := selector.toList.splitOn ','
  if ∀ piece ∈ pieces, '=' ∈ piece then some (Entries.ofPairs (pieces.map label)) else none

/-- Whether neither the key nor the value of a label has a comma in it. -/
def CommaFree (p : String × String) : Prop := ',' ∉ p.1.toList ∧ ',' ∉ p.2.toList

/-- A label as it is written. -/
def written (p : String × String) : List Char := p.1.toList ++ '=' :: p.2.toList

/-- The selector that is written for some labels. -/
def text (labels : Entries String) : String :=
  String.intercalate "," (labels.map fun p => s!"{p.1}={p.2}")

/-- What holds of all labels that are asked for, whether arguments give them or the name of a machine. -/
structure IsAskable (labels : Entries String) : Prop where
  nonempty : labels ≠ []
  nodup : labels.keys.Nodup
  keys : ∀ p ∈ labels, '=' ∉ p.1.toList

theorem toList_text (labels : Entries String) :
    (text labels).toList = [','].intercalate (labels.map written) := by
  rw [text, String.toList_intercalate, List.map_map]
  congr 1
  refine List.map_congr_left fun p _ => ?_
  simp [written, toString]

theorem text_ne_empty {labels : Entries String} (h : labels ≠ []) : text labels ≠ "" := by
  obtain ⟨p, rest, rfl⟩ := List.exists_cons_of_ne_nil h
  intro hempty
  have htext : [','].intercalate ((p :: rest).map written) = [] := by
    rw [← toList_text, hempty]
    rfl
  cases rest <;> simp [written, List.intercalate] at htext

/-- A label that is written is read back: its key has no equal sign in it, so that the first one is the
one behind the key. -/
theorem label_written {p : String × String} (h : '=' ∉ p.1.toList) : label (written p) = p := by
  have hkey : ∀ c ∈ p.1.toList, decide (c ≠ '=') = true := by
    intro c hc
    exact decide_eq_true fun heq => h (heq ▸ hc)
  rw [label, written, List.dropWhile_append_of_pos hkey, List.takeWhile_append_of_pos hkey]
  simp

/-- What is read from a piece without a comma has none. -/
theorem commaFree_label {piece : List Char} (h : ',' ∉ piece) : CommaFree (label piece) := by
  constructor
  · rw [label, String.toList_ofList]
    exact fun hmem => h ((List.takeWhile_sublist _).mem hmem)
  · rw [label, String.toList_ofList]
    exact fun hmem => h ((List.dropWhile_sublist _).mem (List.mem_of_mem_tail hmem))

/-- Whatever a selector gives, no label has a comma in it. -/
theorem commaFree_of_labels? {selector : String} {labels : Entries String}
    (h : labels? selector = some labels) {p : String × String} (hp : p ∈ labels) : CommaFree p := by
  rw [labels?] at h
  split at h
  · cases h
    obtain ⟨piece, hpiece, rfl⟩ := List.mem_map.mp (Entries.mem_of_mem_ofPairs hp)
    exact commaFree_label (notMem_of_mem_splitOn hpiece)
  · cases h

/-- Without a comma in a label, the pieces of a selector are the labels as they were written. -/
theorem splitOn_text {labels : Entries String} (h : labels ≠ []) (hfree : ∀ p ∈ labels, CommaFree p) :
    (text labels).toList.splitOn ',' = labels.map written := by
  rw [toList_text]
  refine List.splitOn_intercalate ',' ?_ (mt List.map_eq_nil_iff.mp h)
  intro piece hpiece
  obtain ⟨p, hp, rfl⟩ := List.mem_map.mp hpiece
  obtain ⟨hkey, hvalue⟩ := hfree p hp
  simp [written, hkey, hvalue]

/-- A selector gives back the labels that it was written for exactly if none of them has a comma in
it. -/
theorem labels?_text_iff {labels : Entries String} (h : IsAskable labels) :
    labels? (text labels) = some labels ↔ ∀ p ∈ labels, CommaFree p := by
  constructor
  · exact fun hread p hp => commaFree_of_labels? hread hp
  · intro hfree
    have hpieces : ∀ piece ∈ labels.map written, '=' ∈ piece := by
      intro piece hpiece
      obtain ⟨p, -, rfl⟩ := List.mem_map.mp hpiece
      exact List.mem_append_right _ List.mem_cons_self
    have hback : (labels.map written).map label = labels := by
      rw [List.map_map]
      exact (List.map_congr_left fun p hp => label_written (h.keys p hp)).trans (List.map_id labels)
    rw [labels?, splitOn_text h.nonempty hfree, if_pos hpieces, hback,
      Entries.ofPairs_of_nodup h.nodup]

/-- So the selector tells such labels from one another. -/
theorem eq_of_text_eq {labels labels' : Entries String} (h : IsAskable labels)
    (h' : IsAskable labels') (hfree : ∀ p ∈ labels, CommaFree p) (hfree' : ∀ p ∈ labels', CommaFree p)
    (htext : text labels = text labels') : labels = labels' := by
  have hread := (labels?_text_iff h).mpr hfree
  rw [htext, (labels?_text_iff h').mpr hfree'] at hread
  exact (Option.some.inj hread).symm

end Selector

/-! ## Asking for servers -/

theorem Action.world_run_map {α β : Type} (f : α → β) (x : Action α) (w : World) :
    ((f <$> x).run w).2 = (x.run w).2 := by
  rw [run_map]

/-- What follows on an action leaves the world alone if it never changes it. -/
theorem Action.world_run_bind {α β : Type} {x : Action α} {k : α → Action β}
    (hk : ∀ a w', ((k a).run w').2 = w') (w : World) : ((x >>= k).run w).2 = (x.run w).2 := by
  rcases hrun : x.run w with ⟨failure | a, w'⟩
  · rw [run_bind_error hrun]
  · rw [run_bind_ok hrun]
    exact hk a w'

/-- The servers that are asked for: those with the labels that some arguments give, or the one of a
machine. -/
inductive Selection where
  | labels (layout : Layout) (arguments : List String)
  | machine (name : String)

namespace Selection

/-- What `--label` arguments, or the name of a machine, ask for. -/
def wanted : Selection → Except Fault (Option (Entries String))
  | labels _ arguments => Command.readLabels (.list (arguments.map .str))
  | machine name => .ok (some [(Machine.label, name)])

/-- Whether a selection is understood and asks for some labels. -/
def Asks (s : Selection) (labels : Entries String) : Prop := s.wanted = .ok (some labels)

/-- Asks for the servers: lists them, or looks for the one of the machine. -/
def run (h : Handle) (project region : Value) : Selection → Action Unit
  | labels layout arguments =>
    (fun _ => ()) <$> Command.perform (Remote.client h) project region layout
      (.list (.list (arguments.map .str)))
  | machine name =>
    (fun _ => ()) <$> Machine.findServer (Remote.client h) project region (.str name)

/-- Whether asking for the servers with a handle, in a world, sends a request. -/
def Sends (s : Selection) (h : Handle) (project region : Value) (w : World) (r : Request) : Prop :=
  .request r ∈ ((s.run h project region).run w).2.log.drop w.log.length

/-- A label that an argument gives has no equal sign in its key. -/
theorem notMem_key_of_readLabelItem {v : Value} {p : String × String}
    (h : Command.readLabelItem v = .ok p) : '=' ∉ p.1.toList := by
  cases v with
  | str text =>
    change Command.readLabel text = _ at h
    rw [Command.readLabel] at h
    split at h
    · split at h <;> cases h
      rw [String.toList_ofList]
      exact fun hmem => by simpa using List.mem_takeWhile_imp hmem
    · cases h
  | _ => cases h

/-- There is at least one label, no key comes twice, and no key has an equal sign in it. -/
theorem Asks.isAskable {s : Selection} {labels : Entries String} (h : s.Asks labels) :
    Selector.IsAskable labels := by
  cases s with
  | labels layout arguments =>
    change Command.readLabels _ = _ at h
    rw [Command.readLabels] at h
    split at h
    · cases h
    · next htruthy =>
      change (arguments.map Value.str).mapM Command.readLabelItem >>= _ = _ at h
      obtain ⟨pairs, hpairs, hlabels⟩ := exists_of_bind_eq_ok h
      cases hlabels
      have hitems := forall₂_of_mapM hpairs
      refine ⟨Entries.ofPairs_ne_nil ?_, Entries.nodup_ofPairs pairs, ?_⟩
      · intro hnil
        rw [hnil, List.forall₂_nil_right_iff] at hitems
        rw [hitems] at htruthy
        exact htruthy rfl
      · intro p hp
        have hkeys := hitems.flip.imp fun p item hitem =>
          And.intro (notMem_key_of_readLabelItem hitem) hitem
        exact ((List.forall₂_and_left _ _).mp hkeys).1 p (Entries.mem_of_mem_ofPairs hp)
  | machine name =>
    cases h
    refine ⟨List.cons_ne_nil _ _, List.nodup_singleton _, ?_⟩
    intro p hp
    rw [List.mem_singleton.mp hp]
    change '=' ∉ Machine.label.toList
    decide

/-- What becomes of a selection in the world is what becomes of the listing that it leads to. -/
theorem Asks.world_run {s : Selection} {labels : Entries String} (h : s.Asks labels)
    (handle : Handle) (project region : Value) (w : World) :
    ((s.run handle project region).run w).2 =
      (((Operation.listServers project region (Command.selectorOf (some labels))).perform
        (Remote.client handle)).run w).2 := by
  rw [Operation.perform, Action.world_run_map]
  cases s with
  | labels layout arguments =>
    change Command.readLabels _ = _ at h
    rw [run, Action.world_run_map, Command.perform, h]
    have hok : (Failure.orThrow id (.ok (some labels)) : Action (Option (Entries String))) =
      pure (some labels) := Action.orThrow_pure id (some labels)
    rw [hok, pure_bind]
    refine Action.world_run_bind (fun servers w' => ?_) w
    rcases Command.showServers layout servers with misfit | text <;> rfl
  | machine name =>
    cases h
    rw [run, Action.world_run_map, Machine.findServer]
    refine Action.world_run_bind (fun servers w' => ?_) w
    cases servers with
    | none => rfl
    | some servers =>
      dsimp only
      split <;> rfl

end Selection

/-- The selector of some labels goes out as the text written for them. -/
theorem Remote.selectorQuery_selectorOf {labels : Entries String} (h : labels ≠ []) :
    selectorQuery (Command.selectorOf (some labels)) = .ok (.str (Selector.text labels)) := by
  have htruthy : (Command.selectorOf (some labels)).isTruthy = true := by
    obtain ⟨p, rest, rfl⟩ := List.exists_cons_of_ne_nil h
    rfl
  rw [selectorQuery, htruthy]
  change Except.ok (Value.str _) = _
  rw [List.map_map]
  rfl

/-- It is all that the query of the listing holds. -/
theorem Handle.listQuery_text {labels : Entries String} (h : labels ≠ []) :
    listQuery (.str (Selector.text labels)) (.bool false) =
      some [("label_selector", .str (Selector.text labels))] := by
  have htruthy : (Value.str (Selector.text labels)).isTruthy = true :=
    decide_eq_true (Selector.text_ne_empty h)
  rw [listQuery, filled, htruthy]
  rfl

namespace Selection

/-- What is sent for a selection carries the selector that is written for the labels. -/
theorem Sends.params_eq {s : Selection} {labels : Entries String} {h : Handle} {project region : Value}
    {w : World} {r : Request} (hsent : s.Sends h project region w r) (hasks : s.Asks labels) :
    r.params = some [("label_selector", .str (Selector.text labels))] := by
  have hne := hasks.isAskable.nonempty
  rw [Sends, hasks.world_run] at hsent
  rcases hinquiry : (Operation.listServers project region
    (Command.selectorOf (some labels))).inquiry with failure | i
  · rw [Operation.run_perform_of_error h hinquiry, List.drop_length] at hsent
    cases hsent
  · rw [Operation.run_perform h hinquiry] at hsent
    obtain ⟨authorization, rfl⟩ := Handle.eq_request_of_mem_sendInquiry hsent
    obtain ⟨query, hquery, hinquiry⟩ := exists_of_bind_eq_ok hinquiry
    rw [Remote.selectorQuery_selectorOf hne] at hquery
    cases hquery
    obtain ⟨path, -, hinquiry⟩ := exists_of_bind_eq_ok hinquiry
    cases hinquiry
    exact Handle.listQuery_text hne

/-- The request does go out once it is authorized, since a path of texts never fails. -/
theorem Asks.exists_sends {s : Selection} {labels : Entries String} (hasks : s.Asks labels) {h : Handle}
    {w w' : World} {authorization : Option String}
    (hauthorized : h.authentication.authorization.run w = (.ok authorization, w'))
    (project region : String) : ∃ r, s.Sends h (.str project) (.str region) w r := by
  obtain ⟨result, sent, n, cache, -, hrun⟩ :=
    Authentication.authorization_spec h.authentication w
  have hlog : w'.log = w.log ++ sent := by
    rw [hauthorized] at hrun
    rw [(Prod.mk.inj hrun).2]
  have hinquiry : (Operation.listServers (.str project) (.str region)
      (Command.selectorOf (some labels))).inquiry =
        .ok (ApiCall.listServers project region (.str (Selector.text labels)) (.bool false)).inquiry := by
    have hpath : Handle.path (.str project) (.str region) [.str "servers"] =
      .ok (Target.listServers project region).path := Handle.path_of_texts project region ["servers"]
    rw [Operation.inquiry, Remote.selectorQuery_selectorOf hasks.isAskable.nonempty, hpath]
    rfl
  refine ⟨Inquiry.request (ApiCall.inquiry (.listServers project region (.str (Selector.text labels))
    (.bool false))) h authorization, ?_⟩
  rw [Sends, hasks.world_run, Operation.run_perform h hinquiry, Handle.sendInquiry,
    h.run_send_of_authorized _ _ _ _ hauthorized, hlog, List.append_assoc, List.drop_left]
  exact List.mem_append_right _ List.mem_cons_self

/-- For labels that arguments give and for the name of a machine alike, there is one selector that every
request carries, and a request goes out once it is authorized.  Cut at its commas, and each piece at its
first equal sign, the selector gives back just the labels asked for if none of them has a comma in its key
or value, and otherwise it does not.  No two selections of different labels without commas send the same
selector. -/
theorem Asks.selector_says {s : Selection} {labels : Entries String} (hasks : s.Asks labels) :
    ∃ selector,
      (∀ (h : Handle) (project region : Value) (w : World) (r : Request),
        s.Sends h project region w r → r.params = some [("label_selector", .str selector)]) ∧
      (∀ (h : Handle) (project region : String) (w : World),
        (∃ authorization w', h.authentication.authorization.run w = (.ok authorization, w')) →
        ∃ r, s.Sends h (.str project) (.str region) w r) ∧
      (Selector.labels? selector = some labels ↔ ∀ p ∈ labels, Selector.CommaFree p) ∧
      ∀ (s' : Selection) (labels' : Entries String) (h : Handle) (project region : Value) (w : World)
        (r : Request), s'.Asks labels' → s'.Sends h project region w r →
        r.params = some [("label_selector", .str selector)] →
        (∀ p ∈ labels, Selector.CommaFree p) → (∀ p ∈ labels', Selector.CommaFree p) →
        labels' = labels := by
  refine ⟨Selector.text labels, ?_, ?_, Selector.labels?_text_iff hasks.isAskable, ?_⟩
  · intro h project region w r hsent
    exact hsent.params_eq hasks
  · rintro h project region w ⟨authorization, w', hauthorized⟩
    exact hasks.exists_sends hauthorized project region
  · intro s' labels' h project region w r hasks' hsent hparams hfree hfree'
    refine Selector.eq_of_text_eq hasks'.isAskable hasks.isAskable hfree' hfree ?_
    rw [hsent.params_eq hasks', Option.some_inj] at hparams
    obtain ⟨hentry, -⟩ := List.cons.inj hparams
    exact Value.str.inj (Prod.mk.inj hentry).2

/-- One label whose value has a comma in it goes out as two. -/
theorem Asks.selector_says_of_comma :
    let s := Selection.labels .table ["a=1,b=2"]
    let r : Request := ⟨"GET", "https://iaas.test/v2/projects/p/regions/r/servers",
      some [("label_selector", .str "a=1,b=2")], none, true, 30, none⟩
    s.Asks [("a", "1,b=2")] ∧ s.Sends { endpoint := "https://iaas.test" } (.str "p") (.str "r") {} r ∧
      Selector.labels? "a=1,b=2" ≠ some [("a", "1,b=2")] ∧
      Selector.labels? "a=1,b=2" = some [("a", "1"), ("b", "2")] := by
  intro s r
  have hasks : s.Asks [("a", "1,b=2")] := rfl
  have hsent : s.Sends { endpoint := "https://iaas.test" } (.str "p") (.str "r") {} r :=
    List.mem_singleton.mpr rfl
  refine ⟨hasks, hsent, ?_, by decide⟩
  obtain ⟨selector, hcarries, -, hback, -⟩ := hasks.selector_says
  have hselector : r.params = some [("label_selector", .str selector)] := hcarries _ _ _ _ r hsent
  cases hselector
  intro hread
  exact (hback.mp hread ("a", "1,b=2") List.mem_cons_self).2 (by decide)

end Selection

end MachineCloud
