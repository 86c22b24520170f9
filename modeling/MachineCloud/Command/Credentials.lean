import MachineCloud.Command.Arguments
import MachineCloud.Secret.Loader
import MachineCloud.Settings.Files

/-!
# Credentials

Where project, region and service account key come from: the command line and the environment first,
and a machine secret for what they leave open.  A key file comes before a secret's key.
-/

namespace MachineCloud.Command

/-- A project, a region in it, and a service account key. -/
structure Access where
  project : String
  region : String
  key : String

/-- The first of two texts unless it is empty. -/
def orText (s t : String) : String := if s = "" then t else s

/-- The namespace and the name in `namespace/name`, cut at the last slash. -/
def splitSecretName (s : String) : String × String :=
  let cs := s.toList.reverse
  let name := (cs.takeWhile (· ≠ '/')).reverse
  let space := ((cs.dropWhile (· ≠ '/')).drop 1).reverse
  (String.ofList space, String.ofList name)

/-- The text of a key file. -/
def readKeyFile (name : String) : Action String := do
  let w ← Action.world
  Failure.orThrow id (Files.read w.files name)

/-- The credentials without the machine secret: no key yet. -/
def givenAccess (a : Arguments) : Access :=
  ⟨(given? a.project).getD "", (given? a.region).getD "", ""⟩

/-- The credentials with what a machine secret adds. -/
def Access.fillFrom (access : Access) (s : MachineSecret) : Access :=
  ⟨orText access.project s.projectId, orText access.region s.region, s.serviceAccountKey⟩

/-- The secret that the arguments name.  Access to the cluster is configured afresh. -/
def loadSecret (defaults : ClusterDefaults) (a : Arguments) (secretName : String) :
    Action MachineSecret := do
  let (space, name) := splitSecretName secretName
  let loader : SecretLoader := ⟨given? a.kubeconfig, defaults.timeout⟩
  Action.change fun w => { w with cluster := { w.cluster with configured := false } }
  loader.load (orText space defaults.space) name (!a.mock)

/-- The credentials with what the secret adds, where the arguments name one. -/
def addSecret (defaults : ClusterDefaults) (a : Arguments) (access : Access) : Action Access :=
  match given? a.secret with
  | some name => access.fillFrom <$> loadSecret defaults a name
  | none => return access

/-- The credentials with the key in the key file, where the arguments name one. -/
def addKeyFile (a : Arguments) (access : Access) : Action Access :=
  match given? a.keyFile with
  | some name => (fun key => { access with key := key }) <$> readKeyFile name
  | none => return access

/-- The credentials for some arguments.  Project and region must be known in the end. -/
def resolveAccess (defaults : ClusterDefaults) (a : Arguments) : Action Access := do
  let access ← addSecret defaults a (givenAccess a)
  let access ← addKeyFile a access
  if access.project = "" || access.region = "" then throw (.of (.value .credentialsMissing))
  return access

end MachineCloud.Command
