import MachineCloud.Failure.Chain
import MachineCloud.Secret

/-!
# Loading secrets

Reads machine secrets from a cluster.  Access is configured on the first load: from a kubeconfig, or
from inside the cluster where that fails.
-/

namespace MachineCloud

/-- How secrets are read. -/
structure SecretLoader where
  kubeconfig : Option String := none
  timeout : Int := 30

namespace SecretLoader

/-- Takes one way to configure access, or says why it does not work. -/
def configureBy (event : Event) (works : Cluster → Bool) (refusal : String) : Action Unit := do
  Action.note event
  if works (← Action.world).cluster then
    Action.change fun w => { w with cluster := { w.cluster with configured := true } }
  else throw (.of (.clusterAccess refusal))

/-- Configures access unless that is done. -/
def configure (l : SecretLoader) : Action Unit := do
  if (← Action.world).cluster.configured then return
  tryCatch
    (configureBy (.loadedKubeconfig l.kubeconfig) Cluster.kubeconfig "no kubeconfig")
    fun _ => configureBy .loadedInCluster Cluster.inCluster "not in cluster"

/-- The next outcome of reading a secret.  When none is left the secret does not exist. -/
def nextSecret : Action SecretOutcome :=
  ⟨fun w => match w.cluster.secrets with
    | [] => (.ok (.refused Failure.notFoundStatus (.str "Not Found")), w)
    | o :: rest => (.ok o, { w with cluster := { w.cluster with secrets := rest } })⟩

/-- The name of a cluster's secret in the report of its violations. -/
def objectName : String := "V1Secret"

/-- What is wrong with a value in a cluster's secret, which must be bytes or a text. -/
def violationsOf (key : String) : SecretValue → List Schema.Violation
  | .text _ | .bytes _ => []
  | .absent => neither .null
  | .other v => neither v
where
  /-- A value that is neither bytes nor a text. -/
  neither (v : Value) : List Schema.Violation :=
    [⟨["data", key, "bytes"], .notBytes, v⟩, ⟨["data", key, "str"], .notText, v⟩]

/-- The data of a cluster's secret, if it has the form. -/
def wellFormed (data : Entries SecretValue) : Except Fault (Entries SecretValue) :=
  match data.flatMap fun p => violationsOf p.1 p.2 with
  | [] => .ok data
  | vs => .error (.schema objectName vs)

def load (l : SecretLoader) (space name : String) (requireKey : Bool) : Action MachineSecret := do
  l.configure
  Action.note (.readSecret space name l.timeout)
  match ← nextSecret with
  | .found data =>
    let data ← Failure.orThrow id (wellFormed (Entries.ofPairs data))
    Failure.orThrow id (MachineSecret.ofData data true requireKey)
  | .refused status reason =>
    let refusal : Failure := .of (.cluster status reason)
    if status.same Failure.notFoundStatus then
      throw (.raisedFrom (.lookup (.noSecret space name)) refusal)
    else throw refusal

end SecretLoader

end MachineCloud
