import MachineCloud.Command.Run
import MachineCloud.Proofs.Client.Opening
import MachineCloud.Proofs.Lists
import MachineCloud.Proofs.Secret.Loading

/-!
# The stages of a run

A run with arguments that were understood has three stages: the environment file is loaded, the
credentials and the client are had, and the command is performed with the client, which is closed
thereafter.  `Course` describes a run by the stage that it gets to (`course_spec`), and `SettingUp` how
the second stage goes (`setUp_spec`), so that the program is taken apart only once.

No credentials depend on the environment or have anything to do with the API
(`confined_resolveAccess`), and what is done with the client is confined to what the client causes
(`confined_perform`).
-/

namespace MachineCloud.Command

open MachineCloud.Action SecretLoader

variable {defaults : ClusterDefaults} {a : Arguments} {w : World}

/-! ## Credentials -/

/-- What is wrong with a file is wrong with its path, or the system says so. -/
theorem isValue_or_isSystem_of_read {files : Entries String} {name : String} {fault : Fault}
    (h : Files.read files name = .error fault) : fault.isValue = true ∨ fault.isSystem = true := by
  rw [Files.read] at h
  split at h
  · cases h
    exact .inl rfl
  · split at h <;> cases h <;> exact .inr rfl

/-- Neither of these is an interrupt. -/
theorem isInterrupt_eq_false {fault : Fault} (h : fault.isValue = true ∨ fault.isSystem = true) :
    fault.isInterrupt = false := by
  cases fault with
  | interrupt message => rcases h with h | h <;> cases h
  | _ => rfl

theorem confined_loadSecret (defaults : ClusterDefaults) (a : Arguments) (name : String) :
    Confined IsReading (loadSecret defaults a name) := by
  have hfresh : Confined IsReading (Action.change fun w =>
      { w with cluster := { w.cluster with configured := false } }) :=
    confined_change (fun _ _ => rfl) (fun _ => rfl) fun _ => rfl
  exact hfresh.bind fun _ => SecretLoader.confined_load _ _ _ _

theorem confined_addSecret (defaults : ClusterDefaults) (a : Arguments) (access : Access) :
    Confined IsReading (addSecret defaults a access) := by
  rw [addSecret]
  split
  · exact (confined_loadSecret defaults a _).map _
  · exact confined_pure access

theorem confined_addKeyFile (a : Arguments) (access : Access) :
    Confined IsReading (addKeyFile a access) := by
  rw [addKeyFile]
  split
  · refine Confined.map (confined_world (fun w => ?_) fun _ _ => rfl) _
    exact confined_orThrow fun _ hread => isInterrupt_eq_false (isValue_or_isSystem_of_read hread)
  · exact confined_pure access

/-- Nothing but the secret is read for the credentials, and the environment plays no part. -/
theorem confined_resolveAccess (defaults : ClusterDefaults) (a : Arguments) :
    Confined IsReading (resolveAccess defaults a) := by
  refine (confined_addSecret defaults a _).bind fun access => ?_
  refine (confined_addKeyFile a access).bind fun access => ?_
  split
  · exact confined_throw rfl
  · exact confined_pure access

/-! ## The client -/

/-- How the credentials and the client are had, or are not. -/
inductive SettingUp (defaults : ClusterDefaults) (a : Arguments) (w : World) :
    Except Failure (Access × Built) × World → Prop
  | unresolved {failure : Failure} {w' : World}
      (h : (resolveAccess defaults a).run w = (.error failure, w')) :
      SettingUp defaults a w (.error failure, w')
  | unopened {access : Access} {failure : Failure} {w' w'' : World} (hmock : a.mock = false)
      (h : (resolveAccess defaults a).run w = (.ok access, w'))
      (hopen : (Remote.open access.key none).run w' = (.error failure, w'')) :
      SettingUp defaults a w (.error failure, w'')
  | opened {access : Access} {handle : Handle} {w' w'' : World} (hmock : a.mock = false)
      (h : (resolveAccess defaults a).run w = (.ok access, w'))
      (hopen : (Remote.open access.key none).run w' = (.ok handle, w'')) :
      SettingUp defaults a w (.ok (access, .remote handle), w'')
  | mock {access : Access} {w' : World} (hmock : a.mock = true)
      (h : (resolveAccess defaults a).run w = (.ok access, w')) :
      SettingUp defaults a w (.ok (access, .overridden {}), w')

theorem create_standard (kind : ClientKind) (key : String) :
    Registry.standard.create (.kind kind) key none = match kind with
      | .sdk => Built.remote <$> Remote.open key none
      | .mock => pure (.overridden {}) := by
  have hcheck : Action.ofMisfit (KindKey.kind kind).check = pure () := rfl
  have hkind : Action.ofMisfit (KindKey.kind kind).asKind = pure kind := rfl
  rw [Registry.create, hcheck, hkind]
  cases kind <;> simp [Registry.builder?, Registry.standard, KindKey.same]

theorem run_setUp_of_error {failure : Failure} {w' : World}
    (h : (resolveAccess defaults a).run w = (.error failure, w')) :
    (setUp defaults a).run w = (.error failure, w') := run_bind_error h

/-- With credentials, a remote client is opened unless another kind is asked for. -/
theorem run_setUp_of_ok {access : Access} {w' : World} (hmock : a.mock = false)
    (h : (resolveAccess defaults a).run w = (.ok access, w')) :
    (setUp defaults a).run w =
      (((Remote.open access.key none).run w').1.map fun handle => (access, .remote handle),
        ((Remote.open access.key none).run w').2) := by
  rw [setUp, run_bind_ok h]
  simp only [create_standard, hmock, Bool.false_eq_true, if_false]
  rw [run_bind, run_map]
  rcases (Remote.open access.key none).run w' with ⟨failure | handle, w''⟩ <;> rfl

theorem run_setUp_of_mock {access : Access} {w' : World} (hmock : a.mock = true)
    (h : (resolveAccess defaults a).run w = (.ok access, w')) :
    (setUp defaults a).run w = (.ok (access, .overridden {}), w') := by
  rw [setUp, run_bind_ok h]
  simp only [create_standard, hmock]
  rfl

theorem setUp_spec (defaults : ClusterDefaults) (a : Arguments) (w : World) :
    SettingUp defaults a w ((setUp defaults a).run w) := by
  rcases hresolve : (resolveAccess defaults a).run w with ⟨failure | access, w'⟩
  · rw [run_setUp_of_error hresolve]
    exact .unresolved hresolve
  · cases hmock : a.mock with
    | true =>
      rw [run_setUp_of_mock hmock hresolve]
      exact .mock hmock hresolve
    | false =>
      rw [run_setUp_of_ok hmock hresolve]
      rcases hopen : (Remote.open access.key none).run w' with ⟨failure | handle, w''⟩
      · exact .unopened hmock hresolve hopen
      · exact .opened hmock hresolve hopen

/-! ## Preparations -/

/-- The stages of a run before the command: the environment file, the credentials, and the client. -/
def prepare (defaults : ClusterDefaults) (a : Arguments) : Action (Access × Built) := do
  let w ← Action.world
  let (environment, _) ← Failure.orThrow id
    (EnvFile.load w.files w.environment (given? a.envFile))
  Action.change fun w => { w with environment := environment }
  setUp defaults a

theorem run_prepare_of_error {fault : Fault}
    (h : EnvFile.load w.files w.environment (given? a.envFile) = .error fault) :
    (prepare defaults a).run w = (.error (.of fault), w) := by
  rw [prepare, run_bind_ok (run_world w), h]
  rfl

theorem run_prepare_of_ok {environment : Entries String} {notices : List Logging.Notice}
    (h : EnvFile.load w.files w.environment (given? a.envFile) = .ok (environment, notices)) :
    (prepare defaults a).run w = (setUp defaults a).run (w.within environment) := by
  rw [prepare, run_bind_ok (run_world w), h]
  rfl

/-- Whether an event may belong to the preparation of a client. -/
def IsPreparation : Event → Prop
  | .loadedKubeconfig _ | .loadedInCluster | .readSecret .. | .silencedWarnings => True
  | _ => False

theorem isPreparation_of_isReading {event : Event} (h : IsReading event) : IsPreparation event := by
  cases event with
  | loadedKubeconfig _ => trivial
  | loadedInCluster => trivial
  | readSecret _ _ _ => trivial
  | _ => exact False.elim h

/-- What a world becomes while a client is prepared. -/
structure Prepares (w w' : World) : Prop where
  log : ∃ quiet, w'.log = w.log ++ quiet ∧ ∀ event ∈ quiet, IsPreparation event
  outcomes : w'.outcomes <:+ w.outcomes

theorem Prepares.refl (w : World) : Prepares w w :=
  ⟨⟨[], (List.append_nil _).symm, by simp⟩, List.suffix_rfl⟩

theorem Prepares.trans {w w' w'' : World} (h : Prepares w w') (h' : Prepares w' w'') :
    Prepares w w'' := by
  obtain ⟨⟨quiet, hlog, hquiet⟩, houtcomes⟩ := h
  obtain ⟨⟨more, hlog', hmore⟩, houtcomes'⟩ := h'
  refine ⟨⟨quiet ++ more, ?_, fun event hmem => ?_⟩, houtcomes'.trans houtcomes⟩
  · rw [hlog', hlog, List.append_assoc]
  · exact (List.mem_append.mp hmem).elim (hquiet event) (hmore event)

theorem prepares_resolveAccess (defaults : ClusterDefaults) (a : Arguments) (w : World) :
    Prepares w ((resolveAccess defaults a).run w).2 := by
  obtain ⟨⟨sent, hlog, hsent⟩, houtcomes, -⟩ := (confined_resolveAccess defaults a).confines w
  exact ⟨⟨sent, hlog, fun event hmem => isPreparation_of_isReading (hsent event hmem)⟩, houtcomes⟩

theorem prepares_open (key : String) (w : World) : Prepares w ((Remote.open key none).run w).2 := by
  obtain ⟨houtcomes, silenced, hlog, hsilenced⟩ := Remote.quiet_open key w
  refine ⟨⟨silenced, hlog, fun event hmem => ?_⟩, ?_⟩
  · rw [hsilenced event hmem]
    trivial
  · simp [houtcomes]

/-- Nothing is sent while credentials and client are had. -/
theorem prepares_setUp (defaults : ClusterDefaults) (a : Arguments) (w : World) :
    Prepares w ((setUp defaults a).run w).2 := by
  have hresolve := prepares_resolveAccess defaults a w
  have hspec := setUp_spec defaults a w
  generalize (setUp defaults a).run w = ran at hspec
  cases hspec with
  | unresolved h =>
    rw [h] at hresolve
    exact hresolve
  | mock _ h =>
    rw [h] at hresolve
    exact hresolve
  | @unopened access _ w' _ _ h hopen =>
    rw [h] at hresolve
    have hopening := prepares_open access.key w'
    rw [hopen] at hopening
    exact hresolve.trans hopening
  | @opened access _ w' _ _ h hopen =>
    rw [h] at hresolve
    have hopening := prepares_open access.key w'
    rw [hopen] at hopening
    exact hresolve.trans hopening

theorem prepares_prepare (defaults : ClusterDefaults) (a : Arguments) (w : World) :
    Prepares w ((prepare defaults a).run w).2 := by
  rcases hload : EnvFile.load w.files w.environment (given? a.envFile) with
    fault | ⟨environment, notices⟩
  · rw [run_prepare_of_error hload]
    exact .refl w
  · obtain ⟨hlog, houtcomes⟩ := prepares_setUp defaults a (w.within environment)
    rw [run_prepare_of_ok hload]
    exact ⟨hlog, houtcomes⟩

/-! ## The command -/

theorem isInterrupt_of_readLabelItem {v : Value} {fault : Fault}
    (h : readLabelItem v = .error fault) : fault.isInterrupt = false := by
  cases v with
  | str text =>
    change readLabel text = _ at h
    rw [readLabel] at h
    split at h
    · split at h <;> cases h
      rfl
    · cases h
      rfl
  | _ =>
    cases h
    rfl

/-- What is wrong with labels is no interrupt. -/
theorem isInterrupt_of_readLabels {v : Value} {fault : Fault} (h : readLabels v = .error fault) :
    fault.isInterrupt = false := by
  rw [readLabels] at h
  split at h
  · cases h
  · split at h
    · cases h
      rfl
    · rcases error_or_exists_of_bind_eq_error h with hpairs | ⟨pairs, -, h⟩
      · obtain ⟨item, -, hitem⟩ := exists_of_mapM_eq_error hpairs
        exact isInterrupt_of_readLabelItem hitem
      · cases h

/-- Performing a command causes what the operations of the client may cause. -/
theorem confined_perform {p : Event → Prop} {client : Client Action} (hclient : client.Confined p)
    (project region : Value) (layout : Layout) (task : Task) :
    Confined p (perform client project region layout task) := by
  cases task with
  | list labels =>
    refine (confined_orThrow fun fault hfault => isInterrupt_of_readLabels hfault).bind fun _ => ?_
    exact (hclient.listServers _ _ _).bind fun servers => confined_ofMisfit _
  | get server name =>
    show Confined p (ite _ _ (ite _ _ _))
    split
    · exact (Machine.confined_getServer hclient _ _ _).bind fun _ => confined_ofMisfit _
    · split
      · exact (hclient.getServer _ _ _).bind fun _ => confined_ofMisfit _
      · exact confined_throw rfl
  | delete server =>
    refine (Machine.confined_deleteIfExists hclient _ _ _).bind fun deleted => ?_
    split <;> exact confined_pure _
  | nics server => exact (hclient.listNics _ _ _).bind fun _ => confined_ofMisfit _
  | allow server addresses scope =>
    exact (Machine.confined_ensureAllowed hclient _ _ _ _ _).bind fun _ => confined_pure _
  | unknown command => exact confined_throw rfl
  | lacking key => exact confined_throw rfl

/-- The command that some arguments ask for, performed with a client. -/
def task (a : Arguments) (access : Access) (built : Built) : Action String :=
  perform built.client (.str access.project) (.str access.region) a.layout a.task

/-- It is confined, whatever the client that the arguments get. -/
theorem confined_task {access : Access} {built : Built} {w' : World}
    (h : (setUp defaults a).run w = (.ok (access, built), w')) :
    Confined (fun _ => True) (task a access built) := by
  have hspec := setUp_spec defaults a w
  rw [h] at hspec
  cases hspec with
  | @opened _ handle _ _ _ _ _ =>
    have hclient := confined_perform (Remote.confined_client handle)
      (.str access.project) (.str access.region) a.layout a.task
    exact hclient.mono fun _ _ => trivial
  | mock _ _ => exact confined_perform Overridden.confined_client _ _ _ _

/-! ## Runs -/

/-- A result in which a failure is replaced by its report, where it has one. -/
def handled (report : Failure → Option Report) : Except Failure Report → Except Failure Report
  | .ok r => .ok r
  | .error failure => (report failure).elim (.error failure) .ok

theorem run_reporting (report : Failure → Option Report) (x : Action Report) (w : World) :
    (reporting report x).run w = (handled report (x.run w).1, (x.run w).2) := by
  rw [reporting, run_tryCatch]
  rcases x.run w with ⟨failure | r, w'⟩
  · rw [handled]
    dsimp only
    cases report failure <;> rfl
  · rfl

theorem run_runTask (a : Arguments) (access : Access) (built : Built) (w : World) :
    (runTask built.client access a).run w =
      (handled (reportTask a.command) (((task a access built).run w).1.map fun text => .print text 0),
        ((task a access built).run w).2) := by
  rw [runTask, run_reporting]
  have htask : (do
      let text ← perform built.client (.str access.project) (.str access.region) a.layout a.task
      return .print text 0 : Action Report) = task a access built >>= fun text =>
        pure (.print text 0) := rfl
  rw [htask, run_bind]
  rcases (task a access built).run w with ⟨failure | text, w'⟩ <;> rfl

/-- What closing a client logs. -/
def closings : Built → List Event
  | .remote ⟨_, .keyFlow _, _, _⟩ => [.closedApi, .closedToken]
  | .remote _ => [.closedApi]
  | .overridden _ => []

theorem run_close (built : Built) (w : World) :
    built.client.close.run w = (.ok (), { w with log := w.log ++ closings built }) := by
  cases built with
  | remote handle =>
    obtain ⟨endpoint, authentication, timeout, verify⟩ := handle
    change (Action.note .closedApi >>= fun _ => authentication.close).run w = _
    rw [run_bind_ok (run_note _ w)]
    cases authentication with
    | keyFlow flow =>
      change (Action.note .closedToken).run _ = _
      rw [run_note, closings, List.append_assoc]
      rfl
    | _ => rfl
  | overridden overrides =>
    rw [closings, List.append_nil]
    rfl

/-- Whatever is done with a client, it is closed thereafter. -/
theorem run_closing {α : Type} (built : Built) (body : Action α) (w : World) :
    (built.client.closing body).run w =
      ((body.run w).1, { (body.run w).2 with log := (body.run w).2.log ++ closings built }) := by
  change (body.attempt >>= fun result => built.client.close >>= fun _ => _).run w = _
  rw [run_bind_ok (run_attempt body w), run_bind_ok (run_close built _)]
  cases (body.run w).1 <;> rfl

section

variable {fault : Fault} {environment : Entries String} {notices : List Logging.Notice}
  {failure : Failure} {access : Access} {built : Built} {w' : World}

theorem run_of_unloaded
    (h : EnvFile.load w.files w.environment (given? a.envFile) = .error fault) :
    (runArguments defaults a).run w = (.error (.of fault), w) := by
  rw [runArguments, run_bind_ok (run_world w), h]
  rfl

theorem run_of_unready
    (hload : EnvFile.load w.files w.environment (given? a.envFile) = .ok (environment, notices))
    (h : (setUp defaults a).run (w.within environment) = (.error failure, w')) :
    (runArguments defaults a).run w = (handled reportSetup (.error failure), w') := by
  have hfailed : (Except.ok (ε := Report) <$> setUp defaults a).run (w.within environment) =
      (.error failure, w') := by
    rw [run_map, h]
    rfl
  rw [runArguments, run_bind_ok (run_world w), hload, run_bind_ok (run_orThrow_ok id _ w),
    run_bind_ok (run_change _ w)]
  change Action.run _ (w.within environment) = _
  rw [run_bind, run_tryCatch_error hfailed, handled]
  cases reportSetup failure <;> rfl

theorem run_of_ready
    (hload : EnvFile.load w.files w.environment (given? a.envFile) = .ok (environment, notices))
    (h : (setUp defaults a).run (w.within environment) = (.ok (access, built), w')) :
    (runArguments defaults a).run w =
      (handled (reportTask a.command) (((task a access built).run w').1.map fun text =>
          .print text 0),
        { ((task a access built).run w').2 with
          log := ((task a access built).run w').2.log ++ closings built }) := by
  have hready : (Except.ok (ε := Report) <$> setUp defaults a).run (w.within environment) =
      (.ok (.ok (access, built)), w') := by
    rw [run_map, h]
    rfl
  rw [runArguments, run_bind_ok (run_world w), hload, run_bind_ok (run_orThrow_ok id _ w),
    run_bind_ok (run_change _ w)]
  change Action.run _ (w.within environment) = _
  rw [run_bind_ok (run_tryCatch_ok hready)]
  change (built.client.closing (runTask built.client access a)).run w' = _
  rw [run_closing, run_runTask]

end

/-- How far a run gets. -/
inductive Course (defaults : ClusterDefaults) (a : Arguments) (w : World) :
    Except Failure Report × World → Prop
  | unloaded {fault : Fault}
      (h : EnvFile.load w.files w.environment (given? a.envFile) = .error fault) :
      Course defaults a w (.error (.of fault), w)
  | unready {environment : Entries String} {notices : List Logging.Notice} {failure : Failure}
      {w' : World}
      (hload : EnvFile.load w.files w.environment (given? a.envFile) = .ok (environment, notices))
      (h : (setUp defaults a).run (w.within environment) = (.error failure, w')) :
      Course defaults a w (handled reportSetup (.error failure), w')
  | performed {environment : Entries String} {notices : List Logging.Notice} {access : Access}
      {built : Built} {w' w'' : World} {result : Except Failure String}
      (hload : EnvFile.load w.files w.environment (given? a.envFile) = .ok (environment, notices))
      (h : (setUp defaults a).run (w.within environment) = (.ok (access, built), w'))
      (htask : (task a access built).run w' = (result, w'')) :
      Course defaults a w (handled (reportTask a.command) (result.map fun text => .print text 0),
        { w'' with log := w''.log ++ closings built })

theorem course_spec (defaults : ClusterDefaults) (a : Arguments) (w : World) :
    Course defaults a w ((runArguments defaults a).run w) := by
  rcases hload : EnvFile.load w.files w.environment (given? a.envFile) with
    fault | ⟨environment, notices⟩
  · rw [run_of_unloaded hload]
    exact .unloaded hload
  · rcases hsetUp : (setUp defaults a).run (w.within environment) with
      ⟨failure | ⟨access, built⟩, w'⟩
    · rw [run_of_unready hload hsetUp]
      exact .unready hload hsetUp
    · rw [run_of_ready hload hsetUp]
      exact .performed hload hsetUp rfl

end MachineCloud.Command
