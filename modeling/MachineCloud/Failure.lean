import MachineCloud.Failure.Misfit
import MachineCloud.Json.Reader
import MachineCloud.Schema

/-!
# Failures

What can go wrong, each cause with one wording, and failures as they travel: an error together with
the errors it was raised from.  The links of a failure form a finite graph, which may have cycles.
-/

namespace MachineCloud

/-- Why a service account key is refused. -/
inductive KeyFault where
  | blank
  | notJson (fault : Json.Fault)
  | notObject
  | schema (violations : List Schema.Violation)
  | unusable
  | notRsa
  | reported (message : String)

namespace KeyFault

/-- The name of a key in the report of its violations. -/
def keyName : String := "ServiceAccountKey"

def message : KeyFault → String
  | .blank => "service account key is empty"
  | .notJson f => s!"service account key is not valid JSON: {f.message}"
  | .notObject => "service account key must be a JSON object"
  | .schema vs =>
    s!"service account key is missing required fields: {Schema.Violation.reportAll keyName vs}"
  | .unusable => "invalid private key in service account key"
  | .notRsa => "service account private key must be an RSA key"
  | .reported message => message

end KeyFault

/-- What a value has to be and is not. -/
inductive ValueFault where
  | emptyServerName
  | timeoutNotInteger (name raw : String)
  | timeoutNotPositive (name : String) (value : Int)
  | severalServers (count : Nat) (name : String)
  | credentialsMissing
  | noServerChosen
  | unknownCommand (name : String)
  | unknownClientKind (name : String)
  | notAClientKind (value : Value)
  | notANumber (text : String)
  | notAnInteger (text : String)
  | noWholePart
  | nullCharacter
  | variableName
  | notALevel (text : String)
  | keyTooShort
  | reported (message : String)

namespace ValueFault

def message : ValueFault → String
  | .emptyServerName => "Server name cannot be empty"
  | .timeoutNotInteger name raw => s!"{name} must be an integer number of seconds, got '{raw}'"
  | .timeoutNotPositive name value => s!"{name} must be positive, got {value}"
  | .severalServers count name => s!"{count} servers found for server name {name}"
  | .credentialsMissing =>
    "project and region are required (use --project/--region or --secret)"
  | .noServerChosen => "either a server ID or --name is required"
  | .unknownCommand name => s!"Unknown command: {name}"
  | .unknownClientKind name => s!"Unknown client kind: {name}"
  | .notAClientKind value => s!"{value.quoted} is not a valid ClientKind"
  | .notANumber text => s!"could not convert string to float: {Text.quote text}"
  | .notAnInteger text => s!"invalid literal for int() with base 10: {Text.quote text}"
  | .noWholePart => "cannot convert float NaN to integer"
  | .nullCharacter => "embedded null byte"
  | .variableName => "illegal environment variable name"
  | .notALevel text => s!"Unknown level: {Text.quote text}"
  | .keyTooShort =>
    "Digest or salt length too long for key size. Use a larger key or shorter salt length if " ++
      "you are specifying a PSS salt"
  | .reported message => message

end ValueFault

/-- What was looked for and is not there. -/
inductive LookupFault where
  | noInterface (server : String)
  | noSecret (space name : String)
  | reported (message : String)

namespace LookupFault

def message : LookupFault → String
  | .noInterface server => s!"failed to find NIC for server {server}"
  | .noSecret space name => s!"secret {space}/{name} not found"
  | .reported message => message

end LookupFault

/-- What is too large. -/
inductive RangeFault where
  /-- An integer beyond the range of binary64. -/
  | integer
  /-- An infinity of which the whole part is wanted. -/
  | infinity

namespace RangeFault

def message : RangeFault → String
  | .integer => "int too large to convert to float"
  | .infinity => "cannot convert float infinity to integer"

end RangeFault

/-- What is wrong with a path to a file. -/
inductive FileProblem where
  | missing
  | notDirectory
  | isDirectory
  | nameTooLong
deriving DecidableEq, Repr

namespace FileProblem

def number : FileProblem → Nat
  | .missing => 2
  | .notDirectory => 20
  | .isDirectory => 21
  | .nameTooLong => 36

def message : FileProblem → String
  | .missing => "No such file or directory"
  | .notDirectory => "Not a directory"
  | .isDirectory => "Is a directory"
  | .nameTooLong => "File name too long"

end FileProblem

inductive Fault where
  /-- The API answered with a status that is an error; `special` marks a narrower kind of it. -/
  | api (special : Bool) (status : Value) (reason : String) (body : Bytes)
  /-- The token endpoint gave no token. -/
  | token (status : Value) (reason : String) (body : Bytes)
  /-- A client could not be created. -/
  | creation (reason : String)
  /-- No server goes with a machine. -/
  | serverNotFound (message : String)
  | key (fault : KeyFault)
  /-- An object of that name does not have its form. -/
  | schema (name : String) (violations : List Schema.Violation)
  | json (fault : Json.Fault)
  | value (fault : ValueFault)
  | lookup (fault : LookupFault)
  | secret (problems : List String)
  | misfit (fault : Misfit)
  | range (fault : RangeFault)
  /-- A private key is on a curve with a name that is not known. -/
  | unknownCurve (identifier : String)
  /-- A private key is on a curve that is not told by a name, and has none that is known. -/
  | unnamedCurve
  /-- A label that is no `key=value`. -/
  | label (text : String)
  /-- The cluster refused a request. -/
  | cluster (status : Value) (reason : Value)
  /-- No access to a cluster is configured. -/
  | clusterAccess (message : String)
  | file (problem : FileProblem) (path : String)
  | system (message : String)
  | missingKey (name : String)
  | connection (message : String)
  | timeout (message : String)
  | http (status : Value) (message : String)
  | runtime (message : String)
  | interrupt (message : String)

namespace Fault

/-- A text followed by a response body, if there is one. -/
def withBody (text : String) (body : Bytes) : String :=
  if body.isEmpty then text else s!"{text}, body: {Utf8.decodeLossy body}"

def message : Fault → String
  | .api _ status reason body => withBody (Text.trim s!"{status.text} {reason}") body
  | .token status reason body =>
    let code := if status.isTruthy then status.text else ""
    withBody (Text.trimEnd s!"token request failed: {code} {reason}") body
  | .creation reason => s!"failed to create STACKIT SDK client: {reason}"
  | .serverNotFound message => message
  | .key fault => fault.message
  | .schema name violations => Schema.Violation.reportAll name violations
  | .json fault => fault.message
  | .value fault => fault.message
  | .lookup fault => fault.message
  | .secret problems =>
    "invalid machine secret:\n" ++
      String.intercalate "\n" (problems.map fun problem => s!"  - {problem}")
  | .misfit fault => fault.message
  | .range fault => fault.message
  | .unknownCurve identifier => s!"Curve {identifier} is not supported"
  | .unnamedCurve =>
    "ECDSA keys with explicit parameters are only supported when they map to secp256r1, " ++
      "secp384r1, or secp521r1. No custom curves are supported."
  | .label text => s!"invalid label '{text}', expected key=value"
  | .cluster status reason => s!"({status.text})\nReason: {reason.text}\n"
  | .clusterAccess message => message
  | .file problem path => s!"[Errno {problem.number}] {problem.message}: {Text.quote path}"
  | .system message => message
  | .missingKey name => Text.quote name
  | .connection message => message
  | .timeout message => message
  | .http _ message => message
  | .runtime message => message
  | .interrupt message => message

/-- Whether an API answered with an error status. -/
def isApi : Fault → Bool
  | .api .. => true
  | _ => false

/-- Whether a value is at fault: the faults that make a client impossible to create. -/
def isValue : Fault → Bool
  | .json (.tooDeep _) => false
  | .value _ | .key _ | .schema .. | .json _ | .secret _ => true
  | _ => false

def isLookup : Fault → Bool
  | .lookup _ | .serverNotFound _ | .missingKey _ => true
  | _ => false

def isSystem : Fault → Bool
  | .file .. | .system _ | .connection _ | .timeout _ | .http .. => true
  | _ => false

def isInterrupt : Fault → Bool
  | .interrupt _ => true
  | _ => false

end Fault

/-- An error with its links: the error it was raised from, the error during whose handling it came
up, and whether that one is to be left out of account.  Links are places in a list of errors. -/
structure Link where
  fault : Fault
  cause : Option Nat := none
  context : Option Nat := none
  suppressed : Bool := false

/-- A failure on its way: errors with their links, and the one that was raised. -/
structure Failure where
  links : List Link
  start : Fin links.length

namespace Failure

/-- A failure without links. -/
def of (fault : Fault) : Failure := ⟨[⟨fault, none, none, false⟩], ⟨0, Nat.zero_lt_one⟩⟩

/-- A failure raised from another one. -/
def raisedFrom (fault : Fault) (cause : Failure) : Failure :=
  ⟨cause.links ++ [⟨fault, some cause.start, none, true⟩],
    ⟨cause.links.length, by rw [List.length_append]; exact Nat.lt_succ_self _⟩⟩

/-- The error that was raised, with its links. -/
def head (f : Failure) : Link := f.links[f.start]

def fault (f : Failure) : Fault := f.head.fault

def message (f : Failure) : String := f.fault.message

def cause? (f : Failure) : Option Fault :=
  f.head.cause.bind fun i => f.links[i]?.map Link.fault

/-- A result that may be an error, among the effects of `m`. -/
def orThrow {m : Type → Type} [Monad m] [MonadExceptOf Failure m] {ε α : Type}
    (toFault : ε → Fault) : Except ε α → m α
  | .ok a => pure a
  | .error e => throw (of (toFault e))

@[simp] theorem fault_of (fault : Fault) : (of fault).fault = fault := rfl

@[simp] theorem fault_raisedFrom (fault : Fault) (cause : Failure) :
    (raisedFrom fault cause).fault = fault := by
  simp [raisedFrom, Failure.fault, head]

end Failure

end MachineCloud
