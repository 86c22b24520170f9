import MachineCloud.Account.KeyFlow
import MachineCloud.Server.Request
import MachineCloud.Text.Percent

/-!
# The API

Requests for servers and network interfaces.  A handle belongs to one endpoint and one way to
authenticate; every operation is one request, without retries.
-/

namespace MachineCloud

/-- How requests authenticate: not at all, with a fixed header, or with tokens of a key flow. -/
inductive Authentication where
  | none
  | fixed (authorization : String)
  | keyFlow (flow : Account.KeyFlow)

namespace Authentication

def authorization : Authentication → Action (Option String)
  | .none => return Option.none
  | .fixed text => return some text
  | .keyFlow flow => return some (← flow.authorization)

def close : Authentication → Action Unit
  | .keyFlow _ => Action.note .closedToken
  | _ => return

/-- Whether requests are authenticated. -/
def isPresent : Authentication → Bool
  | .none => false
  | _ => true

end Authentication

structure Handle where
  endpoint : String
  authentication : Authentication := .none
  timeout : Int := 30
  verify : Bool := true

namespace Handle

def apiVersion : String := "v2"

def accept : String := "application/json"

def userAgent : String := "stackit-mcm-python"

def tokenContentType : String := "application/x-www-form-urlencoded"

/-- What a token request grants access by. -/
def tokenGrant : String := "urn:ietf:params:oauth:grant-type:jwt-bearer"

/-- A handle on an endpoint, which loses the slashes at its end. -/
def create (endpoint : String) (authentication : Authentication) (timeout : Int)
    (verify : Bool) : Handle :=
  ⟨Text.trimSlashes endpoint, authentication, timeout, verify⟩

def segment : Value → Except Misfit String
  | .str s => .ok (Percent.encode s)
  | _ => .error .segment

/-- The path of something in a project and region. -/
def path (project region : Value) (parts : List Value) : Except Misfit String := do
  let segments ← (.str apiVersion :: .str "projects" :: project :: .str "regions" :: region ::
    parts).mapM segment
  return String.intercalate "/" segments

def content : Outcome → Except Failure Value
  | .failed failure => .error failure
  | .response status reason body => Http.content status reason body

/-- Sends a request and gives the value of the response. -/
def send (h : Handle) (method : String) (path : String) (params : Option (Entries Value))
    (payload : Option Value) : Action Value := do
  let authorization ← h.authentication.authorization
  Action.note (.request {
    method := method
    url := h.endpoint ++ "/" ++ path
    params := params
    payload := payload
    verify := h.verify
    timeout := h.timeout
    authorization := authorization })
  match content (← Action.nextOutcome) with
  | .ok v => return v
  | .error failure => throw failure

def call (h : Handle) (method : String) (project region : Value) (parts : List Value)
    (params : Option (Entries Value)) (payload : Option Value) : Action Value := do
  let path ← Action.ofMisfit (path project region parts)
  h.send method path params payload

/-- An empty object in place of an absent value. -/
def orEmptyMap (v : Value) : Value := v.orElse (.map [])

def createServer (h : Handle) (project region payload : Value) : Action Value :=
  orEmptyMap <$> h.call "POST" project region [.str "servers"] none (some payload)

def getServer (h : Handle) (project region server : Value) : Action Value :=
  orEmptyMap <$> h.call "GET" project region [.str "servers", server] none none

def deleteServer (h : Handle) (project region server : Value) : Action Unit :=
  (fun _ => ()) <$> h.call "DELETE" project region [.str "servers", server] none none

/-- The query of a listing: the selector and the wish for details, where they are given. -/
def listQuery (selector details : Value) : Option (Entries Value) :=
  let params := present [
    ("label_selector", filled selector),
    ("details", if details.isTruthy then some (.str "true") else none)]
  if params.isEmpty then none else some params

def listServers (h : Handle) (project region selector details : Value) : Action Value :=
  orEmptyMap <$> h.call "GET" project region [.str "servers"] (listQuery selector details) none

def listNics (h : Handle) (project region server : Value) : Action Value :=
  orEmptyMap <$> h.call "GET" project region [.str "servers", server, .str "nics"] none none

def updateNic (h : Handle) (project region network nic payload : Value) : Action Value :=
  orEmptyMap <$> h.call "PATCH" project region [.str "networks", network, .str "nics", nic] none
    (some payload)

/-- Closes the handle's session, and then its authentication's. -/
def close (h : Handle) : Action Unit := do
  Action.note .closedApi
  h.authentication.close

end Handle

end MachineCloud
