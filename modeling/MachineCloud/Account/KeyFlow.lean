import MachineCloud.Account.PrivateKey
import MachineCloud.Http

/-!
# Key flow

Access tokens for a service account.  A token is asked for with a signed assertion, held, and asked
for again shortly before it expires.
-/

namespace MachineCloud

namespace Value

def Numeric.toBinary64 : Numeric → Except Fault Binary64
  | .int n => match Binary64.ofInt n with
    | .infinite _ => .error (.range .integer)
    | x => .ok x
  | .float x => .ok x

def toBinary64 (v : Value) : Except Fault Binary64 :=
  match v with
  | .str s => match Numeral.readFloat? s with
    | some x => .ok x
    | none => .error (.value (.notANumber s))
  | v => match v.numeric? with
    | some x => x.toBinary64
    | none => .error (.misfit (.number v.kind))

/-- The whole part of a number, cut toward zero. -/
def Numeric.truncate : Numeric → Except Fault Int
  | .int n => .ok n
  | .float .nan => .error (.value .noWholePart)
  | .float x => match x.truncate with
    | some n => .ok n
    | none => .error (.range .infinity)

end Value

namespace Account

/-- How long before its end a token is no longer used. -/
def expiryLeeway : Int := 5

/-- How long a token lives if the endpoint does not say. -/
def defaultTokenLifetime : Int := 600

/-- A way to access tokens: a service account key with its private key, and the endpoint. -/
structure KeyFlow where
  key : Key
  signer : Rsa.PrivateKey
  tokenEndpoint : String
  timeout : Int := 30

namespace KeyFlow

/-- The key flow of a key, if its private key can be used. -/
def create (key : Key) (tokenEndpoint : String) (timeout : Int) : Except Failure KeyFlow :=
  match LoadedKey.ofText key.credentials.privateKey with
  | .rsa signer => .ok ⟨key, signer, tokenEndpoint, timeout⟩
  | .other => .error (.of (.key .notRsa))
  | .unknownCurve identifier => .error (.of (.unknownCurve (Der.Item.dotted identifier)))
  | .unnamedCurve => .error (.of .unnamedCurve)
  | .unusable => .error (.of (.key .unusable))

def buildAssertion (k : KeyFlow) : Action Assertion := do
  let w ← Action.world
  let now ← Failure.orThrow id w.clock.truncate
  let identifier ← Action.draw
  match Assertion.build k.key.credentials (Rsa.sign? k.signer) identifier now with
  | some assertion => return assertion
  | none => throw (.of (.value .keyTooShort))

def isFresh (now : Value.Numeric) (cache : TokenCache) : Bool :=
  cache.token.isTruthy &&
    now.less (.float (cache.expiresAt.sub (Binary64.ofInt expiryLeeway)))

def holdToken (token : Value) : Action Unit :=
  Action.change fun w => { w with cache := { w.cache with token := token } }

def holdUntil (expiresAt : Binary64) : Action Unit :=
  Action.change fun w => { w with cache := { w.cache with expiresAt := expiresAt } }

/-- When a token expires that was received now and has this lifetime. -/
def expiry (now : Value.Numeric) (lifetime : Value) : Except Fault Binary64 := do
  let seconds ← (lifetime.orElse (.int defaultTokenLifetime)).toBinary64
  let start ← now.toBinary64
  return start.add seconds

/-- Takes the token out of a response and holds it.  The token is held before its lifetime is
looked at. -/
def receive (status : Int) (reason : String) (body : Bytes) : Action Unit := do
  let refuse (why : String) : Fault := .token (.int status) why body
  if !Http.isOk status then throw (.of (refuse reason))
  match Http.bodyValue body with
  | .error (.tooDeep what) => throw (.of (.json (.tooDeep what)))
  | .error fault =>
    throw (.raisedFrom (refuse "token response is not JSON") (.of (.json fault)))
  | .ok data =>
    let members : Entries Value := match data with
      | .map m => m
      | _ => []
    let token := member members "access_token"
    if !token.isTruthy then throw (.of (refuse "token response has no access_token"))
    holdToken token
    let w ← Action.world
    let expiresAt ← Failure.orThrow id (expiry w.clock (member members "expires_in"))
    holdUntil expiresAt

def refresh (k : KeyFlow) : Action Unit := do
  let assertion ← k.buildAssertion
  Action.note (.tokenRequest k.tokenEndpoint assertion k.timeout)
  match ← Action.nextOutcome with
  | .failed failure => throw failure
  | .response status reason body => receive status reason body

/-- A token that can be used now: the one held, or a new one. -/
def accessToken (k : KeyFlow) : Action Value := do
  let w ← Action.world
  if isFresh w.clock w.cache then return w.cache.token
  k.refresh
  return (← Action.world).cache.token

def authorization (k : KeyFlow) : Action String := do
  let token ← k.accessToken
  return "Bearer " ++ token.text

end KeyFlow

end Account

end MachineCloud
