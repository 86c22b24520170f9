import MachineCloud.Command.Grammar
import MachineCloud.Settings

/-!
# Arguments

The commands of the program and what each can be told.  What is not on the command line is taken from
the environment where it has a variable for it.
-/

namespace MachineCloud.Command

/-- Everything the program can be told: what goes for every command, the command, and what was said
about the command under each of its keys.  A value is a text, null if it is not given, or an empty
list. -/
structure Arguments where
  project : Value
  region : Value
  keyFile : Value
  secret : Value
  kubeconfig : Value
  mock : Bool
  format : Value
  envFile : Value
  verbose : Bool
  command : String
  details : Entries Value

/-- The text of a value that is given. -/
def given? : Value → Option String
  | .str s => Text.nonEmpty? (some s)
  | _ => none

namespace Arguments

def files (a : Arguments) : List String := [a.keyFile, a.envFile].filterMap given?

def program : String := "stackit_servers.py"

def helpSwitch : Switch := { names := ["-h", "--help"], key := "help", arity := .help }

def formats : List String := ["list", "table", "json"]

/-- What may stand before the command. -/
def mainGrammar : Grammar where
  program := program
  switches := [
    helpSwitch,
    { names := ["--project"], key := "project" },
    { names := ["--region"], key := "region" },
    { names := ["--key-file", "-k"], key := "key_file" },
    { names := ["--secret", "-s"], key := "secret" },
    { names := ["--kubeconfig"], key := "kubeconfig" },
    { names := ["--mock"], key := "mock", arity := .none },
    { names := ["--format", "-f"], key := "format", choices := formats },
    { names := ["--env-file", "-e"], key := "env_file" },
    { names := ["--verbose"], key := "verbose", arity := .none }]
  slot := some (.rest "command")

/-- What may stand after each command. -/
def commands : List (String × List Switch × Option Slot) := [
  ("list", [{ names := ["--label", "-l"], key := "label" }], none),
  ("get", [{ names := ["--name"], key := "name" }], some (.optional "server_id")),
  ("delete", [], some (.one "server_id")),
  ("nics", [], some (.one "server_id")),
  ("allow", [
    { names := ["--address", "-a"], key := "address", required := true },
    { names := ["--network-id"], key := "network_id" },
    { names := ["--nic-id"], key := "nic_id" }], some (.one "server_id"))]

def commandNames : List String := commands.map (·.1)

def grammarOf (name : String) : Option Grammar :=
  (commands.find? fun c => c.1 = name).map fun c =>
    { program := s!"{program} {name}", switches := helpSwitch :: c.2.1, slot := c.2.2 }

/-- What was found about a command. -/
def detailsOf (name : String) (f : Found) : Entries Value :=
  let server := ("server_id", f.last "server_id")
  match name with
  | "list" => [("label", f.all "label")]
  | "get" => [server, ("name", f.last "name")]
  | "allow" => [server, ("address", f.all "address"),
      ("network_id", if f.has "network_id" then f.last "network_id" else .str ""),
      ("nic_id", f.all "nic_id")]
  | _ => [server]

/-- A value, or that of a variable where it is not given. -/
def orVariable (environment : Entries String) (name : String) : Value → Value
  | .null => ((environment.get? name).map .str).getD .null
  | v => v

/-- Reads an argument list.  Everything after the command belongs to the command. -/
def parse (environment : Entries String) (defaults : ClusterDefaults) (arguments : List String) :
    Except Stop Arguments := do
  let m ← mainGrammar.parse arguments
  let (name, rest) := match ((m.values.get? "command").getD []).map Value.text with
    | name :: rest => (name, rest)
    | [] => ("", [])
  match grammarOf name with
  | none => throw (.usage program (.notAChoice "command" name commandNames))
  | some g =>
    let f ← g.parse rest
    let extras := m.extras ++ f.extras
    if !extras.isEmpty then throw (.usage program (.unrecognized extras))
    return {
      project := orVariable environment "STACKIT_PROJECT_ID" (m.last "project")
      region := orVariable environment "STACKIT_REGION" (m.last "region")
      keyFile := orVariable environment "STACKIT_SERVICE_ACCOUNT_KEY_PATH" (m.last "key_file")
      secret := m.last "secret"
      kubeconfig := match m.last "kubeconfig", Text.nonEmpty? (some defaults.kubeconfig) with
        | .null, some path => .str path
        | v, _ => v
      mock := m.has "mock"
      format := if m.has "format" then m.last "format" else .str "list"
      envFile := m.last "env_file"
      verbose := m.has "verbose"
      command := name
      details := detailsOf name f }

end Arguments

end MachineCloud.Command
