import MachineCloud.Client.Registry
import MachineCloud.Command.Credentials
import MachineCloud.Command.Labels
import MachineCloud.Listing
import MachineCloud.Machine.Addresses
import MachineCloud.Machine.Lookup
import MachineCloud.Settings.EnvFile

/-!
# Running commands

What each command asks of a client and what it prints, and the whole run of the program: arguments,
environment file, credentials, client, command.  The client is closed in any case.
-/

namespace MachineCloud.Command

/-- What to do.  What a command needs to know may be of any kind, or may be lacking. -/
inductive Task where
  | list (labels : Value)
  | get (server name : Value)
  | delete (server : Value)
  | nics (server : Value)
  | allow (server addresses : Value) (scope : Machine.Scope)
  | unknown (command : Value)
  | lacking (key : String)

namespace Task

/-- What was said under a key. -/
def detail (details : Entries Value) (key : String) : Except String Value :=
  match details.get? key with
  | some v => .ok v
  | none => .error key

/-- The task of a command with what was said about it, or the first key that is lacking. -/
def find (details : Entries Value) (command : Value) : Except String Task :=
  match command with
  | .str "list" => return .list (← detail details "label")
  | .str "get" => do
    let name ← detail details "name"
    return .get (← detail details "server_id") name
  | .str "delete" => return .delete (← detail details "server_id")
  | .str "nics" => return .nics (← detail details "server_id")
  | .str "allow" => do
    let server ← detail details "server_id"
    let addresses ← detail details "address"
    let network ← detail details "network_id"
    return .allow server addresses ⟨network, ← detail details "nic_id"⟩
  | v => return .unknown v

/-- The task of a command with what was said about it. -/
def ofDetails (details : Entries Value) (command : Value) : Task :=
  match find details command with
  | .ok task => task
  | .error key => .lacking key

end Task

def Arguments.task (a : Arguments) : Task := .ofDetails a.details (.str a.command)

def Arguments.layout (a : Arguments) : Layout :=
  match a.format with
  | .str name => Layout.ofName name
  | _ => .list

variable {m : Type → Type} [Monad m] [MonadExceptOf Failure m]

/-- The listing of servers that may not have come. -/
def showServers (layout : Layout) : Option (List Server) → Except Misfit String
  | some servers => Listing.ofServers layout servers
  | none => match layout with
    | .json => .error (.items Value.null.kind)
    | _ => Listing.ofServers layout []

def showServer (layout : Layout) : Option Server → Except Misfit String
  | some server => Listing.ofServers layout [server]
  | none => match layout with
    | .json => .error .record
    | _ => .error (.member Value.null.kind "name")

def showNics (layout : Layout) : Option (List Nic) → Except Misfit String
  | some nics => Listing.ofNics layout nics
  | none => match layout with
    | .json => .error (.items Value.null.kind)
    | _ => Listing.ofNics layout []

def argumentsKind : String := "Namespace"

/-- Does what a task asks for and gives the text to print. -/
def perform (client : Client m) (project region : Value) (layout : Layout) : Task → m String
  | .list labels => do
    let selector ← Failure.orThrow id (readLabels labels)
    let servers ← client.listServers project region (selectorOf selector)
    Failure.orThrow .misfit (showServers layout servers)
  | .get server name =>
    if name.isTruthy then do
      let found ← Machine.getServer client project region name
      Failure.orThrow .misfit (showServer layout (some found))
    else if server.isTruthy then do
      let found ← client.getServer project region server
      Failure.orThrow .misfit (showServer layout found)
    else throw (Failure.of (.value .noServerChosen))
  | .delete server => do
    if ← Machine.deleteIfExists client project region server then
      return s!"Server {server.text} deleted."
    else return s!"Server {server.text} not found, nothing to delete."
  | .nics server => do
    let nics ← client.listNics project region server
    Failure.orThrow .misfit (showNics layout nics)
  | .allow server addresses scope => do
    let updated ← Machine.ensureAllowed client project region server addresses scope
    return s!"Updated {updated} NIC(s)."
  | .unknown command => throw (Failure.of (.value (.unknownCommand command.text)))
  | .lacking key => throw (Failure.of (.misfit (.member argumentsKind key)))

/-- What a run prints and the status it exits with. -/
structure Report where
  output : String := ""
  errors : Option String := none
  status : Nat := 0

namespace Report

def print (text : String) (status : Nat) : Report := { output := text ++ "\n", status := status }

end Report

/-- What is printed before a client can be had.  A failure of another kind is not dealt with. -/
def reportSetup (failure : Failure) : Option Report :=
  match failure.fault with
  | .creation _ => some (.print
      (s!"\n❌ Error initializing client: {failure.message}\n" ++
        "\nPlease check your service account key and STACKIT_* settings.") 1)
  | fault =>
    if fault.isValue || fault.isLookup || fault.isSystem then
      some (.print s!"\n❌ {failure.message}" 1)
    else none

/-- What is printed when a command fails.  An interrupt is not dealt with. -/
def reportTask (command : String) (failure : Failure) : Option Report :=
  if failure.fault.isInterrupt then none
  else some (.print s!"\n❌ {command} failed: {failure.message}" 1)

def setUp (defaults : ClusterDefaults) (a : Arguments) : Action (Access × Built) := do
  let access ← resolveAccess defaults a
  let kind : ClientKind := if a.mock then .mock else .sdk
  let built ← Registry.standard.create (.kind kind) access.key none
  return (access, built)

/-- Does something and, if it fails, gives the report of the failure where there is one. -/
def reporting (report : Failure → Option Report) (x : Action Report) : Action Report :=
  tryCatch x fun failure => match report failure with
    | some r => return r
    | none => throw failure

/-- Runs the command with a client and reports. -/
def runTask (client : Client Action) (access : Access) (a : Arguments) : Action Report :=
  reporting (reportTask a.command) do
    let text ← perform client (.str access.project) (.str access.region) a.layout a.task
    return .print text 0

/-- Runs the program with arguments that were understood. -/
def runArguments (defaults : ClusterDefaults) (a : Arguments) : Action Report := do
  let w ← Action.world
  let (environment, _) ← Failure.orThrow id
    (EnvFile.load w.files w.environment (given? a.envFile))
  Action.change fun w => { w with environment := environment }
  let ready : Except Report (Access × Built) ←
    tryCatch (.ok <$> setUp defaults a) fun failure => match reportSetup failure with
      | some r => return .error r
      | none => throw failure
  match ready with
  | .error r => return r
  | .ok (access, built) => built.client.closing (runTask built.client access a)

/-- Runs the program.  The defaults for the cluster are those that held when it was started. -/
def run (defaults : ClusterDefaults) (arguments : List String) : Action Report := do
  let w ← Action.world
  match Arguments.parse w.environment defaults arguments with
  | .error .help => return {}
  | .error (.usage program fault) =>
    return { errors := some (Stop.line program fault), status := 2 }
  | .ok a => runArguments defaults a

/-- Runs the program so that an interrupt ends it in good order. -/
def runScript (defaults : ClusterDefaults) (arguments : List String) : Action Report :=
  reporting (fun failure =>
    if failure.fault.isInterrupt then some (.print "\n\nCancelled by user." 130) else none)
    (run defaults arguments)

end MachineCloud.Command
