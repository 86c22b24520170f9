import MachineCloud.Command.Run

/-!
# The program

The command line in the world as it is: variables and files are read before the run, and what the
run reports is printed after it.  There is no transport behind it, so that every request fails for
want of a connection; commands with the mock client need none.
-/

namespace MachineCloud.Program

/-- The variables that the program looks at. -/
def variableNames : List String := [
  "STACKIT_PROJECT_ID", "STACKIT_REGION", "STACKIT_SERVICE_ACCOUNT_KEY_PATH", "STACKIT_NO_AUTH",
  "STACKIT_API_ENDPOINT", "STACKIT_TOKEN_ENDPOINT", "STACKIT_API_TIMEOUT",
  "STACKIT_INSECURE_SKIP_VERIFY", "K8S_NAMESPACE", "K8S_TIMEOUT", "KUBECONFIG"]

def readEnvironment : IO (Entries String) :=
  variableNames.filterMapM fun name => do
    return (← IO.getEnv name).map fun value => (name, value)

/-- The files of some names, as far as they can be read. -/
def readFiles (names : List String) : IO (Entries String) :=
  names.filterMapM fun (name : String) => do
    try
      let text ← IO.FS.readFile name
      return some (name, text)
    catch _ => return none

def filesOf (environment : Entries String) (defaults : ClusterDefaults) (arguments : List String) :
    List String :=
  match Command.Arguments.parse environment defaults arguments with
  | .ok a => a.files
  | .error _ => []

/-- Prints what a run came to and gives its status. -/
def finish : Except Failure Command.Report → IO UInt32
  | .ok r => do
    IO.print r.output
    if let some line := r.errors then IO.eprintln line
    return r.status.toUInt32
  | .error failure => do
    IO.eprintln failure.message
    return 1

end MachineCloud.Program

open MachineCloud Program in
def main (arguments : List String) : IO UInt32 := do
  let environment ← readEnvironment
  match ClusterDefaults.fromEnvironment environment with
  | .error failure => finish (.error failure)
  | .ok defaults =>
    let files ← readFiles (filesOf environment defaults arguments)
    let cluster : Cluster := { kubeconfig := false, inCluster := false }
    let w : World := { environment := environment, files := files, cluster := cluster }
    finish ((Command.runScript defaults arguments).run w).1
