import MachineCloud.Proofs.Command.Grammar
import MachineCloud.Proofs.Command.Stages
import MachineCloud.Proofs.Settings.EnvFile

/-!
# Environment files instead of an environment

A run with an environment file comes to the same as one in the environment that the file leads to,
except for the variables that are read before the file is: the defaults for the cluster, and the
project, the region and the key file where the arguments do not give them (`start_envFile`).  A file
that sets one of these does not act like the environment.

The file makes no difference to anything but the settings of a client, since nothing else looks at the
environment once the file is loaded.
-/

namespace MachineCloud

/-! ## Settings -/

section

variable {environment environment' : Entries String}

/-- The variables for the settings of a client. -/
def Settings.variableNames : List String :=
  ["STACKIT_API_TIMEOUT", "STACKIT_NO_AUTH", "STACKIT_API_ENDPOINT", "STACKIT_TOKEN_ENDPOINT",
    "STACKIT_INSECURE_SKIP_VERIFY"]

theorem Settings.fromEnvironment_congr (h : Entries.AgreeOn variableNames environment environment') :
    fromEnvironment environment = fromEnvironment environment' := by
  have htext (name : String) (hname : name ∈ variableNames) :
      variableText environment name = variableText environment' name := by
    rw [variableText, h name hname, variableText]
  simp only [fromEnvironment, seconds, flag, htext "STACKIT_API_TIMEOUT" (by decide),
    htext "STACKIT_NO_AUTH" (by decide), htext "STACKIT_API_ENDPOINT" (by decide),
    htext "STACKIT_TOKEN_ENDPOINT" (by decide), htext "STACKIT_INSECURE_SKIP_VERIFY" (by decide)]

/-- The variables for the defaults of the cluster. -/
def ClusterDefaults.variableNames : List String := ["K8S_NAMESPACE", "K8S_TIMEOUT", "KUBECONFIG"]

theorem ClusterDefaults.fromEnvironment_congr
    (h : Entries.AgreeOn variableNames environment environment') :
    fromEnvironment environment = fromEnvironment environment' := by
  have htimeout := h "K8S_TIMEOUT" (by decide)
  have hspace := h "K8S_NAMESPACE" (by decide)
  have hkubeconfig := h "KUBECONFIG" (by decide)
  simp only [fromEnvironment, Settings.variableText, htimeout, hspace, hkubeconfig]

/-- Opening a client depends on the settings only. -/
theorem Remote.run_open_within (key : String) {w : World}
    (h : Settings.fromEnvironment w.environment = Settings.fromEnvironment environment) :
    («open» key none).run (w.within environment) =
      (((«open» key none).run w).1, ((«open» key none).run w).2.within environment) := by
  have hplan : plan key none (w.within environment).environment = plan key none w.environment := by
    rw [plan_eq, plan_eq]
    exact congrArg (· >>= _) h.symm
  rw [run_open, run_open, hplan]
  rcases plan key none w.environment with failure | ⟨settings, handle⟩ <;> rfl

end

namespace Command

open MachineCloud.Action

variable {a : Arguments} {w : World} {environment loaded : Entries String}

/-! ## Stages -/

/-- Credentials and client depend on the settings only. -/
theorem run_setUp_within (defaults : ClusterDefaults) (a : Arguments)
    (h : Settings.fromEnvironment w.environment = Settings.fromEnvironment environment) :
    (setUp defaults a).run (w.within environment) =
      (((setUp defaults a).run w).1, ((setUp defaults a).run w).2.within environment) := by
  have hwithin := (confined_resolveAccess defaults a).run_within w environment
  have hkept := (confined_resolveAccess defaults a).environment w
  rcases hresolve : (resolveAccess defaults a).run w with ⟨failure | access, w'⟩
  · rw [hresolve] at hwithin
    rw [run_setUp_of_error hresolve, run_setUp_of_error hwithin]
  · rw [hresolve] at hwithin hkept
    cases hmock : a.mock with
    | true => rw [run_setUp_of_mock hmock hresolve, run_setUp_of_mock hmock hwithin]
    | false =>
      rw [run_setUp_of_ok hmock hresolve, run_setUp_of_ok hmock hwithin]
      rw [← hkept] at h
      rw [Remote.run_open_within access.key h]

/-- The empty name of a file is no name. -/
theorem load_given? (files environment : Entries String) (name : String) :
    EnvFile.load files environment (given? (.str name)) =
      EnvFile.load files environment (some name) := by
  by_cases hname : name = ""
  · subst hname
    rfl
  · have hgiven : given? (.str name) = some name := by
      rw [given?, Text.nonEmpty?]
      exact fun h => hname (Option.some.inj h)
    rw [hgiven]

/-- Running with an environment file comes to the same as running in an environment with the settings
that the file leads to. -/
theorem run_arguments_envFile (defaults : ClusterDefaults) {name : String}
    {notices : List Logging.Notice}
    (hload : EnvFile.load w.files w.environment (some name) = .ok (loaded, notices))
    (hnull : a.envFile = .null)
    (h : Settings.fromEnvironment environment = Settings.fromEnvironment loaded) :
    (runArguments defaults { a with envFile := .str name }).run w =
      (((runArguments defaults a).run (w.within environment)).1,
        ((runArguments defaults a).run (w.within environment)).2.within loaded) := by
  rw [← load_given?] at hload
  have hplain : EnvFile.load (w.within environment).files (w.within environment).environment
      (given? a.envFile) = .ok (environment, []) := by
    rw [hnull]
    rfl
  have hsame : setUp defaults { a with envFile := .str name } = setUp defaults a := rfl
  have hwithin := run_setUp_within defaults a (w := w.within environment) h
  rcases hsetUp : (setUp defaults a).run (w.within environment) with
    ⟨failure | ⟨access, built⟩, w'⟩
  · rw [hsetUp] at hwithin
    rw [run_of_unready hplain hsetUp]
    rw [run_of_unready hload (by rw [hsame]; exact hwithin)]
  · rw [hsetUp] at hwithin
    rw [run_of_ready hplain hsetUp]
    rw [run_of_ready hload (by rw [hsame]; exact hwithin)]
    have htask : (task { a with envFile := .str name } access built).run (w'.within loaded) = _ :=
      (confined_task hsetUp).run_within w' loaded
    dsimp only
    rw [htask]
    rfl

/-- The arguments may come after the switch for the file, or alone in any environment with these
settings in which they mean the same. -/
theorem run_envFile (defaults : ClusterDefaults) {name : String} {notices : List Logging.Notice}
    {arguments : List String} (hname : Arguments.mainGrammar.token name = .ok (.plain name))
    (hnew : ¬ Arguments.NamesEnvFile arguments)
    (hload : EnvFile.load w.files w.environment (some name) = .ok (loaded, notices))
    (hsettings : Settings.fromEnvironment environment = Settings.fromEnvironment loaded)
    (harguments : Entries.AgreeOn Arguments.variableNames w.environment environment) :
    ((run defaults ("--env-file" :: name :: arguments)).run w).1 =
        ((run defaults arguments).run (w.within environment)).1 ∧
      ((run defaults ("--env-file" :: name :: arguments)).run w).2.log =
        ((run defaults arguments).run (w.within environment)).2.log := by
  have halike := Arguments.parse_alike hname hnew w.environment defaults
  rw [run, run, run_bind_ok (run_world w), run_bind_ok (run_world (w.within environment)),
    show (w.within environment).environment = environment from rfl,
    ← Arguments.parse_congr harguments]
  generalize Arguments.parse w.environment defaults arguments = parsed at halike
  generalize Arguments.parse w.environment defaults ("--env-file" :: name :: arguments) = prefixed
    at halike
  cases halike with
  | error stop => cases stop <;> exact ⟨rfl, rfl⟩
  | ok h =>
    obtain ⟨hnull, rfl⟩ := h
    have hrun := run_arguments_envFile defaults hload hnull hsettings
    have hresult := congrArg Prod.fst hrun
    have hlog := congrArg (fun ran => ran.2.log) hrun
    exact ⟨hresult, hlog⟩

/-! ## Early and late variables -/

/-- The variables that are read before any environment file is: those for the defaults of the cluster
and for what is logged, and those that stand for arguments. -/
def earlyVariables : List String :=
  ClusterDefaults.variableNames ++
    ["LOG_LEVEL", "LOG_FILE", "LOG_FILE_MAX_BYTES", "LOG_FILE_BACKUP_COUNT"] ++
    Arguments.variableNames

/-- The lines of an environment file that are not too late. -/
def timely (pairs : List (String × String)) : List (String × String) :=
  pairs.filter fun p => p.1 ∉ earlyVariables

theorem timely_concat (pairs : List (String × String)) (p : String × String) :
    timely (pairs ++ [p]) = timely pairs ++ if p.1 ∈ earlyVariables then [] else [p] := by
  rw [timely, List.filter_append, timely, List.filter_singleton]
  by_cases hearly : p.1 ∈ earlyVariables <;> simp [hearly]

/-- The lines that are not too late have nothing to do with the early variables, and what they do to
the other ones is all that is done. -/
theorem get?_putAll_timely (m : Entries String) (pairs : List (String × String)) (key : String) :
    (m.putAll (timely pairs)).get? key =
      if key ∈ earlyVariables then m.get? key else (m.putAll pairs).get? key := by
  -- The last line decides, so that lines are added at the end.
  induction pairs using List.reverseRecOn with
  | nil => exact (ite_self _).symm
  | append_singleton pairs p ih =>
    rw [timely_concat]
    by_cases hearly : p.1 ∈ earlyVariables
    · rw [if_pos hearly, List.append_nil, ih, Entries.putAll_concat, Entries.get?_put]
      split
      · rfl
      · next hkey =>
        have hother : p.1 ≠ key := by
          rintro rfl
          exact hkey hearly
        rw [if_neg hother]
    · rw [if_neg hearly, Entries.putAll_concat, Entries.putAll_concat, Entries.get?_put,
        Entries.get?_put, ih]
      by_cases hkey : p.1 = key
      · rw [if_pos hkey, if_pos hkey, if_neg (hkey ▸ hearly)]
      · rw [if_neg hkey, if_neg hkey]

/-! ## Runs from the start -/

/-- Runs the program from its start: the defaults for the cluster are those in the environment. -/
def start (arguments : List String) : Action Report := do
  let w ← Action.world
  let defaults ← Action.ofResult (ClusterDefaults.fromEnvironment w.environment)
  run defaults arguments

theorem run_start (arguments : List String) (w : World) :
    (start arguments).run w = match ClusterDefaults.fromEnvironment w.environment with
      | .error failure => (.error failure, w)
      | .ok defaults => (run defaults arguments).run w := by
  rw [start, run_bind_ok (run_world w)]
  cases ClusterDefaults.fromEnvironment w.environment <;> rfl

/-- Whatever the arguments, and whatever plain lines an environment file has: a run with the file
comes to the same result, and does the same in the same order, as a run without it in the environment
in which the lines of the file are set that are not too late.  So a file that sets no early variable
acts just like the environment. -/
theorem start_envFile {w : World} {name text : String} {pairs : List (String × String)}
    {arguments : List String} (hname : Arguments.mainGrammar.token name = .ok (.plain name))
    (hnew : ¬ Arguments.NamesEnvFile arguments) (hread : Files.read w.files name = .ok text)
    (htext : EnvFile.IsPlainText pairs text.toList) (hon : EnvFile.isOff w.environment = false) :
    let environment := w.environment.putAll (timely pairs)
    ((start ("--env-file" :: name :: arguments)).run w).1 =
        ((start arguments).run (w.within environment)).1 ∧
      ((start ("--env-file" :: name :: arguments)).run w).2.log =
        ((start arguments).run (w.within environment)).2.log := by
  intro environment
  have hkey := get?_putAll_timely w.environment pairs
  have hearly (key : String) (hin : key ∈ earlyVariables) :
      w.environment.get? key = environment.get? key := by
    rw [hkey, if_pos hin]
  obtain ⟨loaded, notices, hload, hloaded⟩ := EnvFile.load_of_isPlainText hread hon htext
  have hsettings : Settings.fromEnvironment environment = Settings.fromEnvironment loaded := by
    refine Settings.fromEnvironment_congr fun key hin => ?_
    have hlate : ∀ key ∈ Settings.variableNames, key ∉ earlyVariables := by decide
    rw [hloaded, hkey, if_neg (hlate key hin)]
  have hdefaults : ClusterDefaults.fromEnvironment environment =
      ClusterDefaults.fromEnvironment w.environment := by
    refine ClusterDefaults.fromEnvironment_congr fun key hin => (hearly key ?_).symm
    exact List.mem_append_left _ (List.mem_append_left _ hin)
  have harguments : Entries.AgreeOn Arguments.variableNames w.environment environment :=
    fun key hin => hearly key (List.mem_append_right _ hin)
  rw [run_start, run_start, show (w.within environment).environment = environment from rfl, hdefaults]
  cases ClusterDefaults.fromEnvironment w.environment with
  | error failure => exact ⟨rfl, rfl⟩
  | ok defaults => exact run_envFile defaults hname hnew hload hsettings harguments

/-- The project and the region in an environment file come too late for a listing. -/
theorem start_envFile_of_early :
    let w : World := { files := [("e.env",
      "STACKIT_PROJECT_ID=p\nSTACKIT_REGION=r\nSTACKIT_NO_AUTH=true\n")] }
    ((start ["--env-file", "e.env", "list"]).run w).1 = .ok (.print
      "\n❌ project and region are required (use --project/--region or --secret)" 1) := by
  intro w
  have hnew : ¬ Arguments.NamesEnvFile ["list"] := by
    rintro ⟨f, hf, hhas⟩
    cases hf
    cases hhas
  have htext : EnvFile.IsPlainText
      [("STACKIT_PROJECT_ID", "p"), ("STACKIT_REGION", "r"), ("STACKIT_NO_AUTH", "true")]
      "STACKIT_PROJECT_ID=p\nSTACKIT_REGION=r\nSTACKIT_NO_AUTH=true\n".toList := by
    refine .line ?_ (.line ?_ (.line ?_ .nil))
    all_goals exact EnvFile.isPlain_of_isOrdinary (by decide) (by decide)
  have hname : Arguments.mainGrammar.token "e.env" = .ok (.plain "e.env") := by rfl
  have hrun := start_envFile (w := w) hname hnew (by rfl) htext (by rfl)
  rw [hrun.1]
  rfl

end Command

end MachineCloud
