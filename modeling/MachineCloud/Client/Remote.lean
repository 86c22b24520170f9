import MachineCloud.Api
import MachineCloud.Client
import MachineCloud.Settings

/-!
# The remote client

A client for one set of credentials that talks to the API through one handle.
-/

namespace MachineCloud

namespace Remote

/-- A label selector as a query: `key=value` pairs with commas between them, nothing if empty. -/
def selectorQuery (selector : Value) : Except Misfit Value :=
  if !selector.isTruthy then .ok .null
  else (selector.asMap "items").map fun entries =>
    .str (String.intercalate "," (entries.map fun p => s!"{p.1}={p.2.text}"))

def itemsOf (data : Value) : Except Misfit (List Value) := do
  let members ← data.asMap "get"
  ((member members "items").orElse (.list [])).asItems

def serversOf (data : Value) : Except Misfit (List Server) := do
  (← itemsOf data).mapM Server.fromWire

def nicsOf (data : Value) : Except Misfit (List Nic) := do
  (← itemsOf data).mapM Nic.fromWire

/-- The payload that sets the addresses of an interface.  An empty list clears them. -/
def addressPayload (addresses : Value) : Except Misfit Value := do
  let items ← (addresses.orElse (.list [])).asItems
  return .map [("allowedAddresses", Attribute.stringsToWire (.list items))]

def client (h : Handle) : Client Action where
  createServer project region request := do
    let request ← Failure.orThrow id request.checked
    let payload ← Action.ofMisfit request.toWire
    let data ← h.createServer project region (.map payload)
    some <$> Action.ofMisfit (Server.fromWire data)
  getServer project region server := do
    let data ← h.getServer project region server
    some <$> Action.ofMisfit (Server.fromWire data)
  deleteServer project region server := h.deleteServer project region server
  listServers project region selector := do
    let query ← Action.ofMisfit (selectorQuery selector)
    let data ← h.listServers project region query (.bool false)
    some <$> Action.ofMisfit (serversOf data)
  listNics project region server := do
    let data ← h.listNics project region server
    some <$> Action.ofMisfit (nicsOf data)
  updateNic project region network nic addresses := do
    let payload ← Action.ofMisfit (addressPayload addresses)
    let data ← h.updateNic project region network nic payload
    some <$> Action.ofMisfit (Nic.fromWire data)
  close := h.close

/-- How requests authenticate under some settings.  Without authentication the key is not looked
at. -/
def authenticationOf (key : String) (settings : Settings) : Except Failure Authentication :=
  if settings.noAuth then .ok .none
  else do
    let key ← Account.Key.parse key
    let flow ← Account.KeyFlow.create key settings.tokenEndpoint settings.requestTimeout
    return .keyFlow flow

def handleOf (key : String) (settings : Settings) : Except Failure Handle := do
  let authentication ← authenticationOf key settings
  return Handle.create settings.endpoint authentication settings.requestTimeout settings.verifyTls

/-- A failure to create a client: every fault in a value becomes one, with that fault as its
cause. -/
def creationFailure (failure : Failure) : Failure :=
  if failure.fault.isValue then .raisedFrom (.creation failure.message) failure else failure

/-- The settings given, or else those in the environment, and the handle under them. -/
def plan (key : String) (settings? : Option Settings) (environment : Entries String) :
    Except Failure (Settings × Handle) := do
  let settings ← match settings? with
    | some s => pure s
    | none => Settings.fromEnvironment environment
  let handle ← handleOf key settings
  return (settings, handle)

/-- Opens a handle with a service account key.  No token is held yet, and warnings about certificates
that are not verified are silenced. -/
def «open» (key : String) (settings? : Option Settings) : Action Handle := do
  let w ← Action.world
  match plan key settings? w.environment with
  | .error failure => throw (creationFailure failure)
  | .ok (settings, handle) =>
    if !settings.verifyTls then Action.note .silencedWarnings
    Action.change fun w => { w with cache := {} }
    return handle

end Remote

end MachineCloud
