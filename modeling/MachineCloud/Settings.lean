import MachineCloud.Failure

/-!
# Settings

The settings of a client: how it authenticates, where the API and the token endpoint are, how long a
request may take, and whether certificates are verified.  They are read from the environment afresh
whenever a client is created without settings of its own.
-/

namespace MachineCloud

/-- The settings of a client.  An empty API endpoint stands for the default one. -/
structure Settings where
  noAuth : Bool := false
  apiEndpoint : String := ""
  tokenEndpoint : String := "https://service-account.api.stackit.cloud/token"
  requestTimeout : Int := 30
  verifyTls : Bool := true
deriving DecidableEq, Repr

namespace Settings

def defaultApiEndpoint : String := "https://iaas.api.stackit.cloud"

/-- The API endpoint in effect, without slashes at its end. -/
def endpoint (s : Settings) : String :=
  Text.trimSlashes (if s.apiEndpoint = "" then defaultApiEndpoint else s.apiEndpoint)

/-- The text of a variable, empty if it is not set. -/
def variableText (environment : Entries String) (name : String) : String :=
  (environment.get? name).getD ""

/-- Whether a variable says true, in any case. -/
def flag (environment : Entries String) (name : String) : Bool :=
  (variableText environment name).map Char.toLower = "true"

/-- A number of seconds above zero; the default if the variable is blank. -/
def seconds (environment : Entries String) (name : String) (default : Int) :
    Except Failure Int :=
  let raw := Text.trim (variableText environment name)
  if raw = "" then .ok default
  else match Numeral.readInt? raw with
    | none =>
      .error (.raisedFrom (.value (.timeoutNotInteger name raw))
        (.of (.value (.notAnInteger raw))))
    | some n => if n ≤ 0 then .error (.of (.value (.timeoutNotPositive name n))) else .ok n

def fromEnvironment (environment : Entries String) : Except Failure Settings := do
  let defaults : Settings := {}
  let timeout ← seconds environment "STACKIT_API_TIMEOUT" defaults.requestTimeout
  let tokenEndpoint := variableText environment "STACKIT_TOKEN_ENDPOINT"
  return {
    noAuth := flag environment "STACKIT_NO_AUTH"
    apiEndpoint := variableText environment "STACKIT_API_ENDPOINT"
    tokenEndpoint := if tokenEndpoint = "" then defaults.tokenEndpoint else tokenEndpoint
    requestTimeout := timeout
    verifyTls := !flag environment "STACKIT_INSECURE_SKIP_VERIFY" }

end Settings

/-- What is assumed about the cluster where nothing else is said. -/
structure ClusterDefaults where
  space : String := "default"
  kubeconfig : String := ""
  timeout : Int := 30

namespace ClusterDefaults

def fromEnvironment (environment : Entries String) : Except Failure ClusterDefaults := do
  let timeout ← match environment.get? "K8S_TIMEOUT" with
    | none => pure 30
    | some raw => match Numeral.readInt? raw with
      | some n => pure n
      | none => throw (.of (.value (.notAnInteger raw)))
  return {
    space := (environment.get? "K8S_NAMESPACE").getD "default"
    kubeconfig := Settings.variableText environment "KUBECONFIG"
    timeout := timeout }

end ClusterDefaults

end MachineCloud
