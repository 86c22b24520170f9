import MachineCloud.Proofs.Command.Stages
import MachineCloud.Proofs.Secret.Validity

/-!
# Where credentials come from

Project, region and service account key each have three origins: an option on the command line, a variable
of the environment, and the machine secret.  A secret is meant to supply whatever is not on the command
line, but the variables are the defaults of the options, and what comes from a variable is not told from
what was typed.  So a variable goes before the secret (`Origin.of`).  An option that is typed hides its
variable, even where its value is empty.

`resolveAccess_origins` says what the credentials are with a secret that is valid, and exactly when this is
what is meant.
-/

namespace MachineCloud

/-! ## Valid secrets -/

namespace MachineSecret

/-- Data that holds a valid secret is taken. -/
theorem ofData_of_isValid {data : Entries SecretValue} {encoded requireKey : Bool}
    {secret : MachineSecret} (hholds : Holds encoded data secret)
    (hvalid : secret.IsValid requireKey) : ofData data encoded requireKey = .ok secret := by
  obtain ⟨hreadable, rfl⟩ := holds_iff.mp hholds
  have hvalidate := (validate_eq_nil_iff_isValid (isChomped_ofValues _)).mpr hvalid
  exact ofData_eq_ok_iff.mpr ⟨hreadable, rfl, hvalidate⟩

/-- A valid secret has a project and a region. -/
theorem IsValid.ne_empty {secret : MachineSecret} {requireKey : Bool}
    (h : secret.IsValid requireKey) : secret.projectId ≠ "" ∧ secret.region ≠ "" := by
  constructor
  · intro hempty
    have hproject : isUuid secret.projectId.toList = true := isHexGroups_iff.mpr h.project
    rw [hempty] at hproject
    cases hproject
  · intro hempty
    have hregion := isRegion_iff.mpr h.region
    rw [hempty] at hregion
    cases hregion

end MachineSecret

/-- Whether what the cluster gives away next is a secret in which there is a valid machine secret. -/
def SecretLoader.Gives (c : Cluster) (requireKey : Bool) (secret : MachineSecret) : Prop :=
  ∃ data, upcoming c = .found data ∧ wellFormed (Entries.ofPairs data) = .ok (Entries.ofPairs data) ∧
    MachineSecret.Holds true (Entries.ofPairs data) secret ∧ secret.IsValid requireKey

/-- A valid machine secret is what reading the secret comes to. -/
theorem SecretLoader.Gives.settle_eq {c : Cluster} {requireKey : Bool} {secret : MachineSecret}
    (h : Gives c requireKey secret) (space name : String) :
    settle space name requireKey (upcoming c) = .ok secret := by
  obtain ⟨data, hdata, hformed, hholds, hvalid⟩ := h
  rw [hdata, settle, hformed]
  change Failure.orThrow id (MachineSecret.ofData _ true requireKey) = _
  rw [MachineSecret.ofData_of_isValid hholds hvalid]
  rfl

namespace Command

open MachineCloud.Action SecretLoader

/-! ## Arguments and variables -/

/-- Arguments with the variables of an environment for what they do not give. -/
def Arguments.within (environment : Entries String) (typed : Arguments) : Arguments :=
  { typed with
    project := orVariable environment "STACKIT_PROJECT_ID" typed.project
    region := orVariable environment "STACKIT_REGION" typed.region
    keyFile := orVariable environment "STACKIT_SERVICE_ACCOUNT_KEY_PATH" typed.keyFile }

/-- Without variables, what is typed stands. -/
theorem Arguments.orVariable_nil (name : String) (option : Value) : orVariable [] name option = option := by
  cases option <;> rfl

/-- The environment gives the variables for what is not typed, and nothing else. -/
theorem Arguments.parse_eq (environment : Entries String) (defaults : ClusterDefaults)
    (arguments : List String) :
    parse environment defaults arguments =
      (parse [] defaults arguments).map (Arguments.within environment) := by
  rw [parse, parse]
  cases mainGrammar.parse arguments with
  | error stop => rfl
  | ok m =>
    dsimp only [bind, Except.bind]
    split
    · rfl
    · next g hg =>
      cases g.parse _ with
      | error stop => rfl
      | ok f =>
        dsimp only
        split
        · rfl
        · simp only [orVariable_nil]
          rfl

/-- Where one of the values comes from: an option that is typed, a variable of the environment, or the
machine secret. -/
inductive Origin where
  | typed (text : String)
  | ambient (text : String)
  | secret

namespace Origin

/-- The origin of a value with an option and a variable, by what is typed for the option. -/
def of (environment : Entries String) (name : String) : Value → Origin
  | .null => match Text.nonEmpty? (environment.get? name) with
    | some text => .ambient text
    | none => .secret
  | option => match given? option with
    | some text => .typed text
    | none => .secret

/-- The text that is given, if it is not for the secret to supply. -/
def text? : Origin → Option String
  | typed text => some text
  | ambient text => some text
  | secret => none

/-- What is given in the end is the text of the origin. -/
theorem given?_orVariable (environment : Entries String) (name : String) (option : Value) :
    given? (Arguments.orVariable environment name option) = (of environment name option).text? := by
  cases option with
  | null =>
    rw [of, Arguments.orVariable]
    cases environment.get? name with
    | none => rfl
    | some text =>
      change Text.nonEmpty? (some text) = _
      cases Text.nonEmpty? (some text) <;> rfl
  | str text =>
    change Text.nonEmpty? (some text) = (match Text.nonEmpty? (some text) with
      | some text => Origin.typed text
      | none => .secret).text?
    cases Text.nonEmpty? (some text) <;> rfl
  | _ => rfl

/-- The text that is typed, if any is. -/
def typed? : Origin → Option String
  | typed text => some text
  | _ => none

theorem typed?_of (environment : Entries String) (name : String) (option : Value) :
    (of environment name option).typed? = given? option := by
  cases option with
  | null =>
    rw [of]
    cases Text.nonEmpty? (environment.get? name) <;> rfl
  | str text =>
    change (match Text.nonEmpty? (some text) with
      | some text => Origin.typed text
      | none => .secret).typed? = Text.nonEmpty? (some text)
    cases Text.nonEmpty? (some text) <;> rfl
  | _ => rfl

/-- Only a variable makes a difference to what is typed, unless it has what the secret has. -/
theorem getD_typed?_eq_iff {o : Origin} {text : String} :
    o.typed?.getD text = o.text?.getD text ↔ ∀ s, o = .ambient s → s = text := by
  cases o with
  | ambient s => simp [typed?, text?, eq_comm]
  | _ => simp [typed?, text?]

end Origin

/-- The origins of project, region and key. -/
structure Origins where
  project : Origin
  region : Origin
  keyFile : Origin

namespace Origins

/-- The origins in an environment, by what is typed. -/
def of (environment : Entries String) (typed : Arguments) : Origins where
  project := .of environment "STACKIT_PROJECT_ID" typed.project
  region := .of environment "STACKIT_REGION" typed.region
  keyFile := .of environment "STACKIT_SERVICE_ACCOUNT_KEY_PATH" typed.keyFile

/-- Whether every variable that is taken has what the secret has. -/
structure Agree (o : Origins) (files : Entries String) (secret : MachineSecret) : Prop where
  project : ∀ text, o.project = .ambient text → text = secret.projectId
  region : ∀ text, o.region = .ambient text → text = secret.region
  key : ∀ name, o.keyFile = .ambient name → Files.read files name = .ok secret.serviceAccountKey

end Origins

/-! ## The secret behind them -/

/-- The key that is in a file, or else in a secret. -/
def keyFrom (files : Entries String) (secret : MachineSecret) : Option String → Except Failure String
  | some name => Failure.orThrow id (Files.read files name)
  | none => .ok secret.serviceAccountKey

/-- The credentials with a project, a region and a key file, each of which a secret supplies where it is
left open. -/
def supply (files : Entries String) (secret : MachineSecret) (project? region? keyFile? : Option String) :
    Except Failure Access :=
  (keyFrom files secret keyFile?).map fun key =>
    ⟨project?.getD secret.projectId, region?.getD secret.region, key⟩

/-- What is given is not empty. -/
theorem ne_empty_of_given? {v : Value} {s : String} (h : given? v = some s) : s ≠ "" := by
  rintro rfl
  cases v with
  | str text =>
    change Text.nonEmpty? (some text) = some "" at h
    rw [Text.nonEmpty?.eq_def] at h
    split at h
    · cases h
    · next hne => exact hne h
  | _ => cases h

/-- So the secret supplies what is not given. -/
theorem orText_given? (v : Value) (s : String) : orText ((given? v).getD "") s = (given? v).getD s := by
  rw [orText]
  cases h : given? v with
  | none => rfl
  | some t => exact if_neg (ne_empty_of_given? h)

/-- What it supplies is then known. -/
theorem getD_given?_ne_empty (v : Value) {s : String} (hs : s ≠ "") : (given? v).getD s ≠ "" := by
  cases h : given? v with
  | none => exact hs
  | some t => exact ne_empty_of_given? h

variable {defaults : ClusterDefaults} {a : Arguments} {w : World} {secret : MachineSecret}
  {secretName : String}

/-- What the log has of the reading of a secret. -/
def reading (defaults : ClusterDefaults) (a : Arguments) (c : Cluster) (secretName : String) :
    List Event :=
  let (space, name) := splitSecretName secretName
  let loader : SecretLoader := ⟨given? a.kubeconfig, defaults.timeout⟩
  loader.configuring c ++ [.readSecret (orText space defaults.space) name loader.timeout]

/-- The world after a secret has been read. -/
def afterReading (defaults : ClusterDefaults) (a : Arguments) (w : World) (secretName : String) : World :=
  { w with
    cluster := { w.cluster with configured := true, secrets := w.cluster.secrets.tail }
    log := w.log ++ reading defaults a w.cluster secretName }

theorem run_loadSecret (hreachable : IsReachable w.cluster) (hgives : Gives w.cluster (!a.mock) secret) :
    (loadSecret defaults a secretName).run w =
      (.ok secret, afterReading defaults a w secretName) := by
  let fresh : World := { w with cluster := { w.cluster with configured := false } }
  let loader : SecretLoader := ⟨given? a.kubeconfig, defaults.timeout⟩
  have hload := loader.run_load_of_isReachable (orText (splitSecretName secretName).1 defaults.space)
    (splitSecretName secretName).2 (!a.mock) (w := fresh) rfl hreachable
  have hsettled := hgives.settle_eq (orText (splitSecretName secretName).1 defaults.space)
    (splitSecretName secretName).2
  refine hload.trans (Prod.ext hsettled ?_)
  rw [afterReading, reading, ← List.append_assoc]
  rfl

theorem run_addSecret (hname : given? a.secret = some secretName) (hreachable : IsReachable w.cluster)
    (hgives : Gives w.cluster (!a.mock) secret) :
    (addSecret defaults a (givenAccess a)).run w =
      (.ok ⟨(given? a.project).getD secret.projectId, (given? a.region).getD secret.region,
        secret.serviceAccountKey⟩, afterReading defaults a w secretName) := by
  rw [addSecret, hname, ← orText_given? a.project secret.projectId,
    ← orText_given? a.region secret.region]
  change ((givenAccess a).fillFrom <$> loadSecret defaults a secretName).run w = _
  rw [run_map, run_loadSecret hreachable hgives]
  rfl

/-- A key file goes before the key that is there. -/
theorem run_addKeyFile {access : Access} (haccess : access.key = secret.serviceAccountKey) :
    (addKeyFile a access).run w = ((keyFrom w.files secret (given? a.keyFile)).map fun key =>
      { access with key := key }, w) := by
  rw [addKeyFile]
  cases given? a.keyFile with
  | none =>
    change (Except.ok access, w) = (Except.ok { access with key := secret.serviceAccountKey }, w)
    rw [← haccess]
  | some name =>
    dsimp only
    rw [run_map, readKeyFile, run_bind_ok (run_world w), keyFrom]
    cases Files.read w.files name <;> rfl

/-- With a valid secret, project and region are always known in the end, so that only a key file can be in
the way. -/
theorem run_resolveAccess (hname : given? a.secret = some secretName)
    (hreachable : IsReachable w.cluster) (hgives : Gives w.cluster (!a.mock) secret) :
    (resolveAccess defaults a).run w =
      (supply w.files secret (given? a.project) (given? a.region) (given? a.keyFile),
        afterReading defaults a w secretName) := by
  obtain ⟨hproject, hregion⟩ : secret.projectId ≠ "" ∧ secret.region ≠ "" := by
    obtain ⟨_, _, _, _, hvalid⟩ := hgives
    exact hvalid.ne_empty
  rw [resolveAccess, run_bind_ok (run_addSecret hname hreachable hgives), run_bind, run_addKeyFile rfl,
    supply]
  change _ = (Except.map _ (keyFrom (afterReading defaults a w secretName).files secret _), _)
  cases keyFrom (afterReading defaults a w secretName).files secret (given? a.keyFile) with
  | error failure => rfl
  | ok key =>
    have hknown : ((given? a.project).getD secret.projectId = "" ||
        (given? a.region).getD secret.region = "") = false := by
      rw [Bool.or_eq_false_iff]
      constructor
      · exact decide_eq_false (getD_given?_ne_empty a.project hproject)
      · exact decide_eq_false (getD_given?_ne_empty a.region hregion)
    dsimp only [Except.map]
    rw [if_neg (Bool.not_eq_true _ ▸ hknown)]
    rfl

/-! ## Names of secrets -/

/-- A secret is named by a namespace and a name behind the last slash, or by a name alone. -/
inductive Names : String → String → String → Prop
  | within (space : String) {name : String} (h : '/' ∉ name.toList) :
      Names (space ++ "/" ++ name) space name
  | alone {name : String} (h : '/' ∉ name.toList) : Names name "" name

theorem names_splitSecretName (s : String) :
    Names s (splitSecretName s).1 (splitSecretName s).2 := by
  have hname : '/' ∉ (splitSecretName s).2.toList := by
    rw [splitSecretName, String.toList_ofList, List.mem_reverse]
    intro hmem
    simpa using List.mem_takeWhile_imp hmem
  have hcut : s.toList = (s.toList.reverse.dropWhile (· ≠ '/')).reverse ++
      (splitSecretName s).2.toList := by
    rw [splitSecretName, String.toList_ofList, ← List.reverse_append, List.takeWhile_append_dropWhile,
      List.reverse_reverse]
  have hspace : (splitSecretName s).1.toList =
      ((s.toList.reverse.dropWhile (· ≠ '/')).drop 1).reverse := by
    rw [splitSecretName, String.toList_ofList]
  generalize splitSecretName s = split at hname hcut hspace ⊢
  obtain ⟨space, name⟩ := split
  cases hdrop : s.toList.reverse.dropWhile (· ≠ '/') with
  | nil =>
    rw [hdrop] at hcut hspace
    rw [String.toList_inj.mp hcut, String.toList_inj.mp (hspace.trans String.toList_empty.symm)]
    exact .alone hname
  | cons c rest =>
    rw [hdrop] at hcut hspace
    have hc : c = '/' := by
      have hhead := List.head?_dropWhile_not (fun c => decide (c ≠ '/')) s.toList.reverse
      rw [hdrop] at hhead
      simpa using hhead
    have hs : s = space ++ "/" ++ name := by
      apply String.toList_inj.mp
      rw [hcut, String.toList_append, String.toList_append, hspace, hc]
      simp
    rw [hs]
    exact .within space hname

/-! ## The credentials -/

/-- Credentials that are had come from what is typed and the secret alone exactly if the variables that are
taken agree with the secret. -/
theorem supply_typed?_eq_ok_iff {files : Entries String} {o : Origins} {access : Access}
    (h : supply files secret o.project.text? o.region.text? o.keyFile.text? = .ok access) :
    supply files secret o.project.typed? o.region.typed? o.keyFile.typed? = .ok access ↔
      o.Agree files secret := by
  rw [supply] at h
  cases hread : keyFrom files secret o.keyFile.text? with
  | error failure =>
    rw [hread] at h
    cases h
  | ok key =>
    rw [hread] at h
    cases h
    have hkey : keyFrom files secret o.keyFile.typed? = .ok key ↔
        ∀ name, o.keyFile = .ambient name → Files.read files name = .ok secret.serviceAccountKey := by
      generalize o.keyFile = origin at hread ⊢
      cases origin with
      | typed name => exact iff_of_true hread nofun
      | secret => exact iff_of_true hread nofun
      | ambient name =>
        have hread : Files.read files name = .ok key := Failure.eq_ok_of_orThrow hread
        constructor
        · rintro ⟨⟩ _ ⟨⟩
          exact hread
        · intro hsame
          cases hread.symm.trans (hsame name rfl)
          rfl
    rw [supply]
    constructor
    · intro hsupply
      cases htyped : keyFrom files secret o.keyFile.typed? with
      | error failure =>
        rw [htyped] at hsupply
        cases hsupply
      | ok key' =>
        rw [htyped] at hsupply
        obtain ⟨hproject, hregion, rfl⟩ := Access.mk.inj (Except.ok.inj hsupply)
        exact ⟨Origin.getD_typed?_eq_iff.mp hproject, Origin.getD_typed?_eq_iff.mp hregion,
          hkey.mp htyped⟩
    · rintro ⟨hproject, hregion, hagree⟩
      rw [hkey.mpr hagree, Origin.getD_typed?_eq_iff.mpr hproject,
        Origin.getD_typed?_eq_iff.mpr hregion]
      rfl

/-- With a secret that is valid, each of project, region and key is what is typed for it, or else what a
variable has for it, provided nothing is typed, or else what the secret has.  The credentials that are had
are those that are meant, with the secret for whatever is not typed, exactly if each variable that is taken
has just what the secret has.  The secret is read once, from the namespace before the last slash of its
name or, where there is none, the default one. -/
theorem resolveAccess_origins {arguments : List String} {typed : Arguments}
    (htyped : Arguments.parse [] defaults arguments = .ok typed)
    (hname : given? typed.secret = some secretName) (hreachable : IsReachable w.cluster)
    (hgives : Gives w.cluster (!typed.mock) secret) (environment : Entries String) :
    ∃ a, Arguments.parse environment defaults arguments = .ok a ∧
      let origins := Origins.of environment typed
      let meant := supply w.files secret (given? typed.project) (given? typed.region)
        (given? typed.keyFile)
      ((resolveAccess defaults a).run w).1 =
        supply w.files secret origins.project.text? origins.region.text? origins.keyFile.text? ∧
      (∀ access, ((resolveAccess defaults a).run w).1 = .ok access →
        (meant = .ok access ↔ origins.Agree w.files secret)) ∧
      ∃ space name, Names secretName space name ∧
        ((resolveAccess defaults a).run w).2.log = w.log ++
          (SecretLoader.mk (given? typed.kubeconfig) defaults.timeout).configuring w.cluster ++
          [.readSecret (if space = "" then defaults.space else space) name defaults.timeout] := by
  have hparse := Arguments.parse_eq environment defaults arguments
  rw [htyped] at hparse
  have hrun : (resolveAccess defaults (typed.within environment)).run w = _ :=
    run_resolveAccess hname hreachable hgives
  have hproject := Origin.given?_orVariable environment "STACKIT_PROJECT_ID" typed.project
  have hregion := Origin.given?_orVariable environment "STACKIT_REGION" typed.region
  have hkeyFile := Origin.given?_orVariable environment "STACKIT_SERVICE_ACCOUNT_KEY_PATH" typed.keyFile
  refine ⟨typed.within environment, hparse, ?_⟩
  have hresult : ((resolveAccess defaults (typed.within environment)).run w).1 =
      supply w.files secret (Origins.of environment typed).project.text?
        (Origins.of environment typed).region.text? (Origins.of environment typed).keyFile.text? := by
    rw [hrun, Origins.of, ← hproject, ← hregion, ← hkeyFile]
    rfl
  refine ⟨hresult, ?_, ?_⟩
  · intro access hok
    rw [hresult] at hok
    have hiff := supply_typed?_eq_ok_iff (o := Origins.of environment typed) hok
    rwa [Origins.of, Origin.typed?_of, Origin.typed?_of, Origin.typed?_of] at hiff
  · refine ⟨_, _, names_splitSecretName secretName, ?_⟩
    rw [hrun, List.append_assoc]
    rfl

/-- An argument list that names a secret and nothing else, in an environment with all three variables.
None of the secret's values is taken. -/
theorem resolveAccess_origins_of_ambient :
    let arguments := ["--secret", "shoot--foo/cloudprovider", "list"]
    let environment := [("STACKIT_PROJECT_ID", "ambient-project"), ("STACKIT_REGION", "eu02"),
      ("STACKIT_SERVICE_ACCOUNT_KEY_PATH", "ambient.json")]
    let data := [("project-id", SecretValue.text "MDEyMzQ1NjctODlhYi1jZGVmLTAxMjMtNDU2Nzg5YWJjZGVm"),
      ("region", .text "ZXUwMQ=="), ("serviceaccount.json", .text "e30=")]
    let secret : MachineSecret :=
      { projectId := "01234567-89ab-cdef-0123-456789abcdef"
        region := "eu01"
        serviceAccountKey := "\x7b\x7d" }
    let w : World :=
      { cluster := { secrets := [.found data] }, files := [("ambient.json", "ambient-key")] }
    Gives w.cluster true secret ∧ supply w.files secret none none none =
        .ok ⟨secret.projectId, secret.region, secret.serviceAccountKey⟩ ∧
      ∃ a, Arguments.parse environment {} arguments = .ok a ∧
        ((resolveAccess {} a).run w).1 = .ok ⟨"ambient-project", "eu02", "ambient-key"⟩ := by
  intro arguments environment data secret w
  have hreadable : MachineSecret.undecodable (MachineSecret.textsOf true data) = [] := by decide +kernel
  have hholds : MachineSecret.Holds true data secret := MachineSecret.holds_iff.mpr
    ⟨MachineSecret.undecodable_textsOf_eq_nil_iff.mp hreadable, by decide +kernel⟩
  have hchomped : secret.IsChomped := ⟨by decide, by decide, by decide⟩
  have hvalid : secret.IsValid true :=
    (MachineSecret.validate_eq_nil_iff_isValid hchomped).mp (by decide +kernel)
  have hgives : Gives w.cluster true secret := ⟨data, rfl, rfl, hholds, hvalid⟩
  obtain ⟨typed, htyped, hname, hmock, hproject, hregion, hkeyFile⟩ :
      ∃ typed, Arguments.parse [] {} arguments = .ok typed ∧
        given? typed.secret = some "shoot--foo/cloudprovider" ∧ typed.mock = false ∧
        typed.project = .null ∧ typed.region = .null ∧ typed.keyFile = .null :=
    ⟨_, by rfl, by rfl, by rfl, by rfl, by rfl, by rfl⟩
  obtain ⟨a, hparse, hresult, -⟩ :=
    resolveAccess_origins htyped hname (.inl rfl) (by rwa [hmock]) environment
  refine ⟨hgives, rfl, a, hparse, ?_⟩
  rw [hresult, Origins.of, hproject, hregion, hkeyFile]
  rfl

end Command

end MachineCloud
