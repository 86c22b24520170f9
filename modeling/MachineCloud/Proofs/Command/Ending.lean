import MachineCloud.Proofs.Command.Stages

/-!
# How a run ends

A run prints what its command came to, or says in short what is wrong and ends with the status 1.  A
failure of the command itself is always reported, unless it is an interrupt.  Before that there are a
few failures that nobody deals with, and `run_ending` tells just which they are: the environment file
cannot be loaded, the cluster cannot be reached or refuses the secret, or something about the key is
unforeseen.
-/

namespace MachineCloud.Command

open MachineCloud.Action SecretLoader

variable {defaults : ClusterDefaults} {a : Arguments} {w : World} {failure : Failure}

/-! ## Reports -/

/-- A report of a failure in getting a client has the status 1. -/
theorem exists_message_of_reportSetup {r : Report} (h : reportSetup failure = some r) :
    ∃ message, r = .print ("\n❌ " ++ message) 1 := by
  rw [reportSetup] at h
  split at h
  · cases h
    have hstart : "\n❌ Error initializing client: " = "\n❌ " ++ "Error initializing client: " := rfl
    refine ⟨"Error initializing client: " ++ (failure.message ++ ("\n" ++
      "\nPlease check your service account key and STACKIT_* settings.")), ?_⟩
    rw [← String.append_assoc, ← hstart, ← String.append_assoc, ← String.append_assoc]
    rfl
  · split at h
    · cases h
      exact ⟨failure.message, rfl⟩
    · cases h

/-- Whether a failure in getting a client is reported. -/
def IsReported (failure : Failure) : Prop := ∃ r, reportSetup failure = some r

/-- A fault in a value, something missing, and what the system says are reported. -/
theorem isReported_of_fault (h : (failure.fault.isValue || failure.fault.isLookup ||
    failure.fault.isSystem) = true) : IsReported failure := by
  rw [IsReported, reportSetup]
  split
  · exact ⟨_, rfl⟩
  · rw [if_pos h]
    exact ⟨_, rfl⟩

/-- So is a failure to create the client. -/
theorem isReported_of_creation (reason : String) (cause : Failure) :
    IsReported (.raisedFrom (.creation reason) cause) := by
  rw [IsReported, reportSetup, Failure.fault_raisedFrom]
  exact ⟨_, rfl⟩

/-- The report of a failure of a command. -/
theorem handled_reportTask (command : String) (h : failure.fault.isInterrupt = false) :
    handled (reportTask command) (.error failure) =
      .ok (.print ("\n❌ " ++ (command ++ " failed: " ++ failure.message)) 1) := by
  rw [handled, reportTask, h, ← String.append_assoc, ← String.append_assoc]
  rfl

/-- Nothing that is unforeseen about a key is reported. -/
theorem reportSetup_of_unforeseen {key : String} (h : Account.Key.Unforeseen key failure) :
    reportSetup failure = none := by
  cases h <;> rfl

/-! ## Secrets that nobody can read -/

/-- The failures to read the secret that are not reported. -/
inductive Unread (a : Arguments) (w : World) : Failure → Prop
  | unreachable {name : String} (hsecret : given? a.secret = some name)
      (h : ¬ IsReachable w.cluster) : Unread a w (.of (.clusterAccess "not in cluster"))
  | refused {name : String} {status reason : Value} (hsecret : given? a.secret = some name)
      (hreachable : IsReachable w.cluster)
      (hnext : SecretLoader.upcoming w.cluster = .refused status reason)
      (hstatus : status.same Failure.notFoundStatus = false) :
      Unread a w (.of (.cluster status reason))

theorem Unread.not_isReported (h : Unread a w failure) : reportSetup failure = none := by
  cases h <;> rfl

/-- Access to the cluster is configured afresh for the secret. -/
theorem loadSecret_spec (defaults : ClusterDefaults) (a : Arguments) (name : String) (w : World) :
    Loading (orText (splitSecretName name).1 defaults.space) (splitSecretName name).2 w
      ((loadSecret defaults a name).run w).1 := by
  have hspec := SecretLoader.load_spec ⟨given? a.kubeconfig, defaults.timeout⟩
    (orText (splitSecretName name).1 defaults.space) (splitSecretName name).2 (!a.mock)
    (w := { w with cluster := { w.cluster with configured := false } }) rfl
  change Loading _ _ _ ((loadSecret defaults a name).run w).1 at hspec
  generalize ((loadSecret defaults a name).run w).1 = result at hspec ⊢
  cases hspec with
  | unreachable h => exact .unreachable h
  | read hreachable h => exact .read hreachable h

theorem isReported_or_unread_of_addSecret {access : Access} {w' : World}
    (h : (addSecret defaults a access).run w = (.error failure, w')) :
    IsReported failure ∨ Unread a w failure := by
  rw [addSecret] at h
  split at h
  · next name hsecret =>
    have hspec := loadSecret_spec defaults a name w
    rw [run_map] at h
    rcases hload : (loadSecret defaults a name).run w with ⟨cause | secret, w''⟩
    · rw [hload] at h hspec
      cases h
      cases hspec with
      | unreachable hunreachable => exact .inr (.unreachable hsecret hunreachable)
      | read hreachable hsettling =>
        generalize hnext : SecretLoader.upcoming w.cluster = outcome at hsettling
        cases hsettling with
        | refused hstatus => exact .inr (.refused hsecret hreachable hnext hstatus)
        | missing _ =>
          refine .inl (isReported_of_fault ?_)
          rw [Failure.fault_raisedFrom]
          rfl
        | invalid hvalue =>
          refine .inl (isReported_of_fault ?_)
          rw [Failure.fault_of, hvalue]
          rfl
    · rw [hload] at h
      cases h
  · cases h

/-- The failures to read the secret come out as they are. -/
theorem Unread.run_addSecret (h : Unread a w failure) (defaults : ClusterDefaults)
    (access : Access) : ∃ w', (addSecret defaults a access).run w = (.error failure, w') := by
  have hrun {name : String} (hsecret : given? a.secret = some name)
      (hload : ((loadSecret defaults a name).run w).1 = .error failure) :
      ∃ w', (addSecret defaults a access).run w = (.error failure, w') := by
    rw [addSecret, hsecret]
    refine ⟨((loadSecret defaults a name).run w).2, ?_⟩
    rw [run_map, hload]
    rfl
  cases h with
  | @unreachable name hsecret hunreachable =>
    refine hrun hsecret ?_
    have hspec := loadSecret_spec defaults a name w
    generalize ((loadSecret defaults a name).run w).1 = result at hspec
    cases hspec with
    | unreachable _ => rfl
    | read hreachable _ => exact absurd hreachable hunreachable
  | @refused name status reason hsecret hreachable hnext hstatus =>
    refine hrun hsecret ?_
    have hspec := loadSecret_spec defaults a name w
    generalize ((loadSecret defaults a name).run w).1 = result at hspec
    cases hspec with
    | unreachable hunreachable => exact absurd hreachable hunreachable
    | read _ hsettling =>
      rw [hnext] at hsettling
      cases hsettling with
      | refused _ => rfl
      | missing hmissing => cases hstatus.symm.trans hmissing

/-! ## Credentials that cannot be had -/

theorem isReported_of_addKeyFile {access : Access} {w' : World}
    (h : (addKeyFile a access).run w = (.error failure, w')) : IsReported failure := by
  rw [addKeyFile] at h
  split at h
  · next name hname =>
    rw [run_map, readKeyFile, run_bind_ok (run_world w)] at h
    cases hread : Files.read w.files name with
    | error fault =>
      rw [hread] at h
      cases h
      refine isReported_of_fault ?_
      rcases isValue_or_isSystem_of_read hread with hvalue | hsystem
      · rw [Failure.fault_of, id, hvalue]
        rfl
      · rw [Failure.fault_of, id, hsystem, Bool.or_true]
    | ok key =>
      rw [hread] at h
      cases h
  · cases h

/-- Without credentials, the failure is reported or is one to read the secret. -/
theorem isReported_or_unread_of_resolveAccess {w' : World}
    (h : (resolveAccess defaults a).run w = (.error failure, w')) :
    IsReported failure ∨ Unread a w failure := by
  rw [resolveAccess] at h
  rcases hsecret : (addSecret defaults a (givenAccess a)).run w with ⟨cause | access, w₁⟩
  · rw [run_bind_error hsecret] at h
    cases h
    exact isReported_or_unread_of_addSecret hsecret
  · rw [run_bind_ok hsecret] at h
    rcases hfile : (addKeyFile a access).run w₁ with ⟨cause | access', w₂⟩
    · rw [run_bind_error hfile] at h
      cases h
      exact .inl (isReported_of_addKeyFile hfile)
    · rw [run_bind_ok hfile] at h
      change (ite _ _ _ : Action Access).run w₂ = _ at h
      split at h
      · cases h
        exact .inl (isReported_of_fault rfl)
      · cases h

theorem Unread.run_resolveAccess (h : Unread a w failure) (defaults : ClusterDefaults) :
    ∃ w', (resolveAccess defaults a).run w = (.error failure, w') := by
  obtain ⟨w', hsecret⟩ := h.run_addSecret defaults (givenAccess a)
  exact ⟨w', run_bind_error hsecret⟩

/-! ## Clients that cannot be had -/

/-- The failures to get credentials and a client that are not reported. -/
inductive Unready (defaults : ClusterDefaults) (a : Arguments) (w : World) (failure : Failure) : Prop
  | secret (h : Unread a w failure)
  | key {access : Access} {w' : World} (hmock : a.mock = false)
      (haccess : (resolveAccess defaults a).run w = (.ok access, w'))
      (htimeout : Settings.HasTimeout w.environment) (hclosed : ¬ Remote.IsOpen w.environment)
      (hkey : Account.Key.Unforeseen access.key failure)

/-- These are just the ones that come out. -/
theorem unready_iff : Unready defaults a w failure ↔
    ∃ w', (setUp defaults a).run w = (.error failure, w') ∧ reportSetup failure = none := by
  constructor
  · intro h
    cases h with
    | secret h =>
      obtain ⟨w', hresolve⟩ := h.run_resolveAccess defaults
      exact ⟨w', run_setUp_of_error hresolve, h.not_isReported⟩
    | @key access w' hmock haccess htimeout hclosed hkey =>
      have henvironment : w'.environment = w.environment := by
        have hkept := (confined_resolveAccess defaults a).environment w
        rwa [haccess] at hkept
      rw [← henvironment] at htimeout hclosed
      refine ⟨w', ?_, reportSetup_of_unforeseen hkey⟩
      rw [run_setUp_of_ok hmock haccess, Remote.run_open_of_unforeseen htimeout hclosed hkey]
      rfl
  · rintro ⟨w', hsetUp, hreport⟩
    have hunreported : ¬ IsReported failure := by
      rintro ⟨r, hr⟩
      cases hreport.symm.trans hr
    have hspec := setUp_spec defaults a w
    rw [hsetUp] at hspec
    cases hspec with
    | unresolved hresolve =>
      rcases isReported_or_unread_of_resolveAccess hresolve with hreported | hunread
      · exact absurd hreported hunreported
      · exact .secret hunread
    | @unopened access _ w₁ _ hmock haccess hopen =>
      have henvironment : w₁.environment = w.environment := by
        have hkept := (confined_resolveAccess defaults a).environment w
        rwa [haccess] at hkept
      have herror : ((Remote.open access.key none).run w₁).1 = .error failure := by rw [hopen]
      rcases Remote.open_error herror with ⟨cause, -, hcreation⟩ | ⟨htimeout, hclosed, hkey⟩
      · rw [hcreation] at hunreported
        exact absurd (isReported_of_creation _ cause) hunreported
      · rw [henvironment] at htimeout hclosed
        exact .key hmock haccess htimeout hclosed hkey

/-! ## Endings -/

/-- The failures that come out of a run. -/
inductive Escapes (defaults : ClusterDefaults) (a : Arguments) (w : World) (failure : Failure) : Prop
  | unloaded {fault : Fault}
      (h : EnvFile.load w.files w.environment (given? a.envFile) = .error fault)
      (hfailure : failure = .of fault)
  | unready {environment : Entries String} {notices : List Logging.Notice}
      (hload : EnvFile.load w.files w.environment (given? a.envFile) = .ok (environment, notices))
      (h : Unready defaults a (w.within environment) failure)

/-- Without an environment file that cannot be loaded, only the second stage lets failures out. -/
theorem escapes_iff_of_load {environment : Entries String} {notices : List Logging.Notice}
    (hload : EnvFile.load w.files w.environment (given? a.envFile) = .ok (environment, notices)) :
    Escapes defaults a w failure ↔ ∃ w', (setUp defaults a).run (w.within environment) =
      (.error failure, w') ∧ reportSetup failure = none := by
  rw [← unready_iff]
  constructor
  · intro h
    cases h with
    | unloaded h _ => cases hload.symm.trans h
    | unready h hunready =>
      cases hload.symm.trans h
      exact hunready
  · intro h
    exact .unready hload h

theorem escapes_iff_of_error {fault : Fault}
    (hload : EnvFile.load w.files w.environment (given? a.envFile) = .error fault) :
    Escapes defaults a w failure ↔ failure = .of fault := by
  constructor
  · intro h
    cases h with
    | unloaded h hfailure =>
      cases hload.symm.trans h
      exact hfailure
    | unready h _ => cases hload.symm.trans h
  · intro h
    exact .unloaded hload h

/-- What the command of a run prints. -/
def Prints (defaults : ClusterDefaults) (a : Arguments) (w : World) (text : String) : Prop :=
  ∃ access built w', (prepare defaults a).run w = (.ok (access, built), w') ∧
    ((task a access built).run w').1 = .ok text

/-- No command is interrupted unless a request is. -/
theorem isInterrupt_of_task {access : Access} {built : Built} {w' : World}
    (hw : ∀ failure, .failed failure ∈ w.outcomes → failure.fault.isInterrupt = false)
    (hsetUp : (setUp defaults a).run w = (.ok (access, built), w'))
    (h : ((task a access built).run w').1 = .error failure) : failure.fault.isInterrupt = false := by
  have houtcomes : w'.outcomes <:+ w.outcomes := by
    have hprepares := prepares_setUp defaults a w
    rw [hsetUp] at hprepares
    exact hprepares.outcomes
  cases hinterrupt : failure.fault.isInterrupt with
  | false => rfl
  | true =>
    have hmem := ((confined_task hsetUp).confines w').interrupted failure h hinterrupt
    exact hinterrupt.symm.trans (hw failure (houtcomes.subset hmem))

/-- How a run ends: the failures that come out are the ones that escape, and a report is what the
command prints, or says what is wrong. -/
structure Ending (defaults : ClusterDefaults) (a : Arguments) (w : World)
    (result : Except Failure Report) : Prop where
  escapes : ∀ failure, result = .error failure ↔ Escapes defaults a w failure
  reports : ∀ report, result = .ok report →
    (∃ text, Prints defaults a w text ∧ report = .print text 0) ∨
      ∃ message, report = .print ("\n❌ " ++ message) 1

section

variable {environment : Entries String} {notices : List Logging.Notice} {w' : World}

theorem ending_of_unloaded {fault : Fault}
    (hload : EnvFile.load w.files w.environment (given? a.envFile) = .error fault) :
    Ending defaults a w (.error (.of fault)) := by
  refine ⟨fun failure => ?_, fun report h => ?_⟩
  · rw [escapes_iff_of_error hload]
    exact ⟨fun h => (Except.error.inj h).symm, fun h => congrArg _ h.symm⟩
  · cases h

theorem ending_of_unready
    (hload : EnvFile.load w.files w.environment (given? a.envFile) = .ok (environment, notices))
    (h : (setUp defaults a).run (w.within environment) = (.error failure, w')) :
    Ending defaults a w (handled reportSetup (.error failure)) := by
  have hescapes (f : Failure) :
      Escapes defaults a w f ↔ failure = f ∧ reportSetup failure = none := by
    rw [escapes_iff_of_load hload, h]
    constructor
    · rintro ⟨w'', heq, hnone⟩
      cases heq
      exact ⟨rfl, hnone⟩
    · rintro ⟨rfl, hnone⟩
      exact ⟨w', rfl, hnone⟩
  rw [handled]
  cases hreport : reportSetup failure with
  | none =>
    refine ⟨fun f => ?_, fun report heq => ?_⟩
    · rw [hescapes, hreport]
      exact ⟨fun heq => ⟨Except.error.inj heq, rfl⟩, fun heq => congrArg _ heq.1⟩
    · cases heq
  | some r =>
    refine ⟨fun f => ?_, fun report heq => ?_⟩
    · rw [hescapes, hreport]
      constructor
      · intro heq
        cases heq
      · rintro ⟨-, hnone⟩
        cases hnone
    · cases heq
      exact .inr (exists_message_of_reportSetup hreport)

theorem ending_of_performed {access : Access} {built : Built}
    (hload : EnvFile.load w.files w.environment (given? a.envFile) = .ok (environment, notices))
    (h : (setUp defaults a).run (w.within environment) = (.ok (access, built), w'))
    (hquiet : ∀ failure, ((task a access built).run w').1 = .error failure →
      failure.fault.isInterrupt = false) :
    Ending defaults a w (handled (reportTask a.command)
      (((task a access built).run w').1.map fun text => .print text 0)) := by
  have hescapes (f : Failure) : ¬ Escapes defaults a w f := by
    rw [escapes_iff_of_load hload, h]
    rintro ⟨w'', heq, -⟩
    cases heq
  cases htask : ((task a access built).run w').1 with
  | error cause =>
    rw [Except.map, handled_reportTask a.command (hquiet cause htask)]
    refine ⟨fun f => ?_, fun report heq => ?_⟩
    · constructor
      · intro heq
        cases heq
      · intro hescape
        exact absurd hescape (hescapes f)
    · cases heq
      exact .inr ⟨_, rfl⟩
  | ok text =>
    rw [Except.map, handled]
    refine ⟨fun f => ?_, fun report heq => ?_⟩
    · constructor
      · intro heq
        cases heq
      · intro hescape
        exact absurd hescape (hescapes f)
    · cases heq
      refine .inl ⟨text, ⟨access, built, w', ?_, htask⟩, rfl⟩
      rw [run_prepare_of_ok hload, h]

end

/-- However a run ends that is not interrupted, it prints what the command came to and has the status 0, or
says what is wrong and has the status 1, unless the failure is one of those that nobody deals with.  Nothing
is printed as an error. -/
theorem run_ending {arguments : List String}
    (hparse : Arguments.parse w.environment defaults arguments = .ok a)
    (hw : ∀ failure, .failed failure ∈ w.outcomes → failure.fault.isInterrupt = false) :
    (∀ failure, ((run defaults arguments).run w).1 = .error failure ↔ Escapes defaults a w failure) ∧
    ∀ report, ((run defaults arguments).run w).1 = .ok report →
      report.errors = none ∧
        ((∃ text, Prints defaults a w text ∧ report.output = text ++ "\n" ∧ report.status = 0) ∨
          ∃ message, report.output = "\n❌ " ++ message ++ "\n" ∧ report.status = 1) := by
  have hrun : (run defaults arguments).run w = (runArguments defaults a).run w := by
    rw [run, run_bind_ok (run_world w), hparse]
  have hending : Ending defaults a w ((runArguments defaults a).run w).1 := by
    have hcourse := course_spec defaults a w
    generalize (runArguments defaults a).run w = ran at hcourse
    cases hcourse with
    | unloaded hload => exact ending_of_unloaded hload
    | unready hload hsetUp => exact ending_of_unready hload hsetUp
    | @performed environment _ access built w' _ _ hload hsetUp htask =>
      have hending := ending_of_performed hload hsetUp fun failure hfailure =>
        isInterrupt_of_task (w := w.within environment) hw hsetUp hfailure
      rw [htask] at hending
      exact hending
  rw [hrun]
  refine ⟨hending.escapes, fun report hreport => ?_⟩
  rcases hending.reports report hreport with ⟨text, hprints, rfl⟩ | ⟨message, rfl⟩
  · exact ⟨rfl, .inl ⟨text, hprints, rfl, rfl⟩⟩
  · exact ⟨rfl, .inr ⟨message, rfl, rfl⟩⟩

/-- A cluster that does not give the secret away ends the run with its own failure. -/
theorem run_ending_of_refused :
    let w : World := { cluster := { secrets := [.refused (.int 403) (.str "Forbidden")] } }
    ((run {} ["-s", "a/b", "list"]).run w).1 =
      .error (.of (.cluster (.int 403) (.str "Forbidden"))) := by
  intro w
  obtain ⟨a, hparse, hsecret, henvFile⟩ :
      ∃ a, Arguments.parse w.environment {} ["-s", "a/b", "list"] = .ok a ∧
        given? a.secret = some "a/b" ∧ given? a.envFile = none := ⟨_, by rfl, by rfl, by rfl⟩
  have hload : EnvFile.load w.files w.environment (given? a.envFile) = .ok (w.environment, []) := by
    rw [henvFile]
    rfl
  have hquiet : ∀ failure, .failed failure ∈ w.outcomes → failure.fault.isInterrupt = false := by
    intro failure hmem
    cases hmem
  refine ((run_ending hparse hquiet).1 _).mpr (.unready hload (.secret ?_))
  exact .refused hsecret (.inl rfl) rfl rfl

end MachineCloud.Command
