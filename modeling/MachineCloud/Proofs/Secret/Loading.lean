import MachineCloud.Proofs.Secret.Decoding
import MachineCloud.Proofs.World.Confined
import MachineCloud.Secret.Loader

/-!
# What reading a secret comes to

A secret is read once access to the cluster is configured.  `load_spec` tells the ways in which that
goes when nothing has been configured before: the cluster cannot be reached, it refuses the secret, it
does not have it, what it has is no machine secret, or all is well.  Nothing else is done to the world
than that is logged (`confined_load`).
-/

namespace MachineCloud

open MachineCloud.Action

/-! ## What a secret may hold -/

/-- The ways in which data is no machine secret. -/
theorem MachineSecret.fault_of_ofData {data : Entries SecretValue} {requireKey : Bool} {fault : Fault}
    (h : ofData data true requireKey = .error fault) :
    (∃ problems, fault = .secret problems) ∨
      ∃ misfit, decodeAll true data = .error misfit ∧ fault = .misfit misfit := by
  rw [ofData] at h
  split at h
  · next misfit hdecode =>
    cases h
    exact .inr ⟨misfit, hdecode, rfl⟩
  · split at h
    · cases h
    · cases h
      exact .inl ⟨_, rfl⟩

namespace SecretLoader

/-- What does not violate the form of a value is a text or bytes. -/
theorem isTextual_of_violationsOf {key : String} {v : SecretValue} (h : violationsOf key v = []) :
    v.IsTextual := by
  cases v with
  | text s => trivial
  | bytes bs => trivial
  | absent => cases h
  | other v => cases h

/-- Data that has the form is left as it is, and its values are texts and bytes. -/
theorem isTextual_of_wellFormed {data data' : Entries SecretValue} (h : wellFormed data = .ok data') :
    data' = data ∧ ∀ p ∈ data, p.2.IsTextual := by
  rw [wellFormed] at h
  split at h
  · next hnone =>
    cases h
    exact ⟨rfl, fun p hp => isTextual_of_violationsOf (List.flatMap_eq_nil_iff.mp hnone p hp)⟩
  · cases h

theorem wellFormed_spec (data : Entries SecretValue) :
    (wellFormed data = .ok data ∧ ∃ values, MachineSecret.decodeAll true data = .ok values) ∨
      ∃ violations, wellFormed data = .error (.schema objectName violations) := by
  cases hformed : wellFormed data with
  | ok data' =>
    obtain ⟨rfl, htextual⟩ := isTextual_of_wellFormed hformed
    exact .inl ⟨rfl, _, MachineSecret.decodeAll_eq_ok htextual⟩
  | error fault =>
    rw [wellFormed] at hformed
    split at hformed <;> cases hformed
    exact .inr ⟨_, rfl⟩

/-- What is done with what a read of a secret comes to. -/
def settle (space name : String) (requireKey : Bool) : SecretOutcome → Except Failure MachineSecret
  | .found data =>
    match wellFormed (Entries.ofPairs data) with
    | .error fault => .error (.of fault)
    | .ok data => Failure.orThrow id (MachineSecret.ofData data true requireKey)
  | .refused status reason =>
    if status.same Failure.notFoundStatus then
      .error (.raisedFrom (.lookup (.noSecret space name)) (.of (.cluster status reason)))
    else .error (.of (.cluster status reason))

/-- What the next read of a secret comes to. -/
def upcoming (c : Cluster) : SecretOutcome :=
  c.secrets.headD (.refused Failure.notFoundStatus (.str "Not Found"))

/-- Whether there is a way to configure access. -/
def IsReachable (c : Cluster) : Prop := c.kubeconfig = true ∨ c.inCluster = true

/-- What a read of a secret may come to.  The failures are told apart by what reports them. -/
inductive Settling (space name : String) : SecretOutcome → Except Failure MachineSecret → Prop
  /-- The cluster does not give the secret away. -/
  | refused {status reason : Value} (hstatus : status.same Failure.notFoundStatus = false) :
      Settling space name (.refused status reason) (.error (.of (.cluster status reason)))
  /-- The cluster does not have the secret. -/
  | missing {status reason : Value} (hstatus : status.same Failure.notFoundStatus = true) :
      Settling space name (.refused status reason) (.error (.raisedFrom
        (.lookup (.noSecret space name)) (.of (.cluster status reason))))
  /-- What the cluster has is no machine secret. -/
  | invalid {data : List (String × SecretValue)} {fault : Fault} (h : fault.isValue = true) :
      Settling space name (.found data) (.error (.of fault))
  | loaded {data : List (String × SecretValue)} {secret : MachineSecret} :
      Settling space name (.found data) (.ok secret)

theorem settle_spec (space name : String) (requireKey : Bool) (o : SecretOutcome) :
    Settling space name o (settle space name requireKey o) := by
  cases o with
  | found data =>
    rw [settle]
    rcases wellFormed_spec (Entries.ofPairs data) with ⟨hformed, values, hvalues⟩ | ⟨vs, hformed⟩
    · rw [hformed]
      change Settling space name _ (Failure.orThrow id _)
      cases hdata : MachineSecret.ofData (Entries.ofPairs data) true requireKey with
      | ok secret => exact .loaded
      | error fault =>
        rcases MachineSecret.fault_of_ofData hdata with ⟨problems, rfl⟩ | ⟨misfit, hmisfit, -⟩
        · exact .invalid rfl
        · cases hvalues.symm.trans hmisfit
    · rw [hformed]
      exact .invalid rfl
  | refused status reason =>
    rw [settle]
    cases hstatus : status.same Failure.notFoundStatus with
    | true => exact .missing hstatus
    | false => exact .refused hstatus

/-! ## Loading -/

/-- Whether an event belongs to the reading of a secret. -/
def IsReading : Event → Prop
  | .loadedKubeconfig _ | .loadedInCluster | .readSecret .. => True
  | _ => False

theorem confined_configureBy {event : Event} (hevent : IsReading event) (works : Cluster → Bool)
    (refusal : String) : Confined IsReading (configureBy event works refusal) := by
  refine (confined_note hevent).bind fun _ => confined_world (fun w => ?_) fun _ _ => rfl
  split
  · exact confined_change (fun _ _ => rfl) (fun _ => rfl) fun _ => rfl
  · exact confined_throw rfl

theorem confined_configure (l : SecretLoader) : Confined IsReading l.configure := by
  have hkubeconfig : IsReading (.loadedKubeconfig l.kubeconfig) := trivial
  have hinCluster : IsReading .loadedInCluster := trivial
  refine confined_world (fun w => ?_) fun _ _ => rfl
  split
  · exact confined_pure ()
  · exact (confined_configureBy hkubeconfig _ _).tryCatch fun _ =>
      .inl (confined_configureBy hinCluster _ _)

theorem run_nextSecret (w : World) : nextSecret.run w =
    (.ok (upcoming w.cluster),
      { w with cluster := { w.cluster with secrets := w.cluster.secrets.tail } }) := by
  obtain ⟨clock, drawn, outcomes, ⟨kubeconfig, inCluster, configured, secrets⟩, rest⟩ := w
  cases secrets <;> rfl

theorem confined_nextSecret : Confined IsReading nextSecret := by
  refine ⟨fun w environment => ?_, fun w => ?_⟩
  · rw [run_nextSecret, run_nextSecret]
    rfl
  · rw [run_nextSecret]
    exact confines_of_eq rfl rfl nofun

/-- Loading a secret is to configure access, to read it, and to settle what that comes to. -/
theorem load_eq (l : SecretLoader) (space name : String) (requireKey : Bool) :
    l.load space name requireKey = (do
      l.configure
      Action.note (.readSecret space name l.timeout)
      Action.ofResult (settle space name requireKey (← nextSecret))) := by
  unfold load
  refine congrArg (l.configure >>= ·) (funext fun _ => ?_)
  refine congrArg (Action.note _ >>= ·) (funext fun _ => ?_)
  refine congrArg (nextSecret >>= ·) (funext fun outcome => ?_)
  cases outcome with
  | found data =>
    change Failure.orThrow id (wellFormed (Entries.ofPairs data)) >>= _ = _
    rw [settle]
    cases wellFormed (Entries.ofPairs data) with
    | error fault => rfl
    | ok data =>
      change Failure.orThrow id (MachineSecret.ofData data true requireKey) =
        Action.ofResult (Failure.orThrow id (MachineSecret.ofData data true requireKey))
      cases MachineSecret.ofData data true requireKey <;> rfl
  | refused status reason =>
    change (if _ then _ else _) = _
    rw [settle]
    split <;> rfl

/-- Nothing else reaches the log while a secret is loaded. -/
theorem confined_load (l : SecretLoader) (space name : String) (requireKey : Bool) :
    Confined IsReading (l.load space name requireKey) := by
  have hread : IsReading (.readSecret space name l.timeout) := trivial
  rw [load_eq]
  refine l.confined_configure.bind fun _ => (confined_note hread).bind fun _ => ?_
  refine confined_nextSecret.bind fun outcome => ?_
  have hspec := settle_spec space name requireKey outcome
  generalize settle space name requireKey outcome = settled at hspec
  cases hspec with
  | refused _ => exact confined_throw rfl
  | missing _ => exact confined_throw (by rw [Failure.fault_raisedFrom]; rfl)
  | @invalid _ fault hvalue =>
    refine confined_throw ?_
    cases fault with
    | interrupt message => cases hvalue
    | _ => rfl
  | loaded => exact confined_pure _

theorem run_configureBy (event : Event) (works : Cluster → Bool) (refusal : String) (w : World) :
    (configureBy event works refusal).run w =
      if works w.cluster then (.ok (), { w with
        cluster := { w.cluster with configured := true }
        log := w.log ++ [event] })
      else (.error (.of (.clusterAccess refusal)), { w with log := w.log ++ [event] }) := by
  rw [configureBy, run_bind_ok (run_note event w), run_bind_ok (run_world _)]
  change Action.run (ite (works w.cluster = true) _ _) _ = _
  split <;> rfl

/-- What is tried to configure access, in order. -/
def configuring (l : SecretLoader) (c : Cluster) : List Event :=
  .loadedKubeconfig l.kubeconfig :: if c.kubeconfig then [] else [.loadedInCluster]

/-- Access is configured just if there is a way to do so. -/
theorem run_configure (l : SecretLoader) {w : World} (hfresh : w.cluster.configured = false) :
    (IsReachable w.cluster ∧ l.configure.run w = (.ok (), { w with
      cluster := { w.cluster with configured := true }
      log := w.log ++ l.configuring w.cluster })) ∨
    (¬ IsReachable w.cluster ∧
      ∃ w', l.configure.run w = (.error (.of (.clusterAccess "not in cluster")), w')) := by
  have hrun : l.configure.run w = (tryCatch
      (configureBy (.loadedKubeconfig l.kubeconfig) Cluster.kubeconfig "no kubeconfig") fun _ =>
      configureBy .loadedInCluster Cluster.inCluster "not in cluster").run w := by
    rw [configure, run_bind_ok (run_world w), hfresh]
    rfl
  have hfirst := run_configureBy (.loadedKubeconfig l.kubeconfig) Cluster.kubeconfig "no kubeconfig" w
  rw [hrun, configuring]
  by_cases hkubeconfig : w.cluster.kubeconfig = true
  · rw [if_pos hkubeconfig] at hfirst
    refine .inl ⟨.inl hkubeconfig, ?_⟩
    rw [run_tryCatch_ok hfirst, if_pos hkubeconfig]
  · rw [if_neg hkubeconfig] at hfirst
    rw [run_tryCatch_error hfirst, run_configureBy, if_neg hkubeconfig]
    by_cases hinCluster : w.cluster.inCluster = true
    · refine .inl ⟨.inr hinCluster, ?_⟩
      rw [if_pos hinCluster, List.append_assoc]
      rfl
    · exact .inr ⟨fun h => h.elim hkubeconfig hinCluster, _, if_neg hinCluster⟩

/-- Where there is, the next outcome of reading a secret decides. -/
theorem run_load_of_isReachable (l : SecretLoader) (space name : String) (requireKey : Bool) {w : World}
    (hfresh : w.cluster.configured = false) (hreachable : IsReachable w.cluster) :
    (l.load space name requireKey).run w =
      (settle space name requireKey (upcoming w.cluster), { w with
        cluster := { w.cluster with configured := true, secrets := w.cluster.secrets.tail }
        log := w.log ++ l.configuring w.cluster ++ [.readSecret space name l.timeout] }) := by
  rcases l.run_configure hfresh with ⟨-, hrun⟩ | ⟨hunreachable, -⟩
  · rw [load_eq, run_bind_ok hrun, run_bind_ok (run_note _ _), run_bind_ok (run_nextSecret _)]
    change (ofResult (settle space name requireKey (upcoming w.cluster))).run _ = _
    cases settle space name requireKey (upcoming w.cluster) <;> rfl
  · exact absurd hreachable hunreachable

/-- What loading a secret comes to in a world in which no access is configured. -/
inductive Loading (space name : String) (w : World) : Except Failure MachineSecret → Prop
  | unreachable (h : ¬ IsReachable w.cluster) :
      Loading space name w (.error (.of (.clusterAccess "not in cluster")))
  | read {result : Except Failure MachineSecret} (hreachable : IsReachable w.cluster)
      (h : Settling space name (upcoming w.cluster) result) : Loading space name w result

theorem load_spec (l : SecretLoader) (space name : String) (requireKey : Bool) {w : World}
    (hfresh : w.cluster.configured = false) :
    Loading space name w ((l.load space name requireKey).run w).1 := by
  rcases l.run_configure hfresh with ⟨hreachable, -⟩ | ⟨hunreachable, w', hrun⟩
  · rw [l.run_load_of_isReachable space name requireKey hfresh hreachable]
    exact .read hreachable (settle_spec space name requireKey (upcoming w.cluster))
  · rw [load_eq, run_bind_error hrun]
    exact .unreachable hunreachable

end SecretLoader

end MachineCloud
