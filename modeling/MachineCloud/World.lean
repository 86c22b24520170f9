import MachineCloud.Account.Assertion
import MachineCloud.Server

/-!
# The world

What a run sees of its surroundings and what it does to them: the clock, the identifiers drawn, the
answers that HTTP requests, cluster reads and overrides will get, environment and files, the access
token held, and the log of everything that went out.  An action is a function of the world; what it
did to the world stays when it fails.

A request is what is handed to the HTTP library in one call, and an outcome is what that call comes to:
the failure that the library raises, or the status, the reason and the body that it gives.  What the
library does in between lies below this: it may follow redirects, take the dots out of a path, find
credentials in a URL or in a file of the user's, and tell a charset by a header.  No answer has headers
here.
-/

namespace MachineCloud

/-- What an HTTP request comes to once the library is done with it: a response, or a failure to get
one. -/
inductive Outcome where
  | response (status : Int) (reason : String) (body : Bytes)
  | failed (failure : Failure)

/-- The outcome that a response makes.  A reason that is not given is empty. -/
def Outcome.received (status : Int) (reason : Option String) (body : Bytes) : Outcome :=
  .response status (reason.getD "") body

/-- A value in a machine secret.  Anything but text, bytes and nothing is of no use. -/
inductive SecretValue where
  | text (s : String)
  | bytes (bs : Bytes)
  | absent
  | other (v : Value)

/-- What a read of a secret comes to. -/
inductive SecretOutcome where
  | found (data : List (String × SecretValue))
  | refused (status reason : Value)

/-- The cluster: which ways to configure access work, whether one has been taken, and what the reads
of secrets will come to. -/
structure Cluster where
  kubeconfig : Bool := true
  inCluster : Bool := true
  configured : Bool := false
  secrets : List SecretOutcome := []

/-- An access token with the time at which it expires. -/
structure TokenCache where
  token : Value := .null
  expiresAt : Binary64 := Binary64.zero false

/-- A request to the API as it is handed to the HTTP library.  Without an authorization none is asked
for. -/
structure Request where
  method : String
  url : String
  params : Option (Entries Value) := none
  payload : Option Value := none
  verify : Bool
  timeout : Int
  authorization : Option String := none

/-- What reached the surroundings. -/
inductive Event where
  | request (r : Request)
  | tokenRequest (url : String) (assertion : Account.Assertion) (timeout : Int)
  | closedApi
  | closedToken
  | silencedWarnings
  | loadedKubeconfig (path : Option String)
  | loadedInCluster
  | readSecret (space name : String) (timeout : Int)
  | called (name : String) (arguments : List Value)

/-- What an override of a client gives. -/
inductive Reply where
  | nothing
  | server (s : Server)
  | servers (ss : List Server)
  | nic (n : Nic)
  | nics (ns : List Nic)
  | failed (failure : Failure)

/-- The world of a run.  The log has the newest event at its end. -/
structure World where
  clock : Value.Numeric := .int 1700000000
  drawn : Nat := 0
  outcomes : List Outcome := []
  cluster : Cluster := {}
  environment : Entries String := []
  files : Entries String := []
  replies : Entries (List Reply) := []
  cache : TokenCache := {}
  log : List Event := []

/-- An action: what it gives or how it fails, and the world after it. -/
structure Action (α : Type) where
  run : World → Except Failure α × World

namespace Action

variable {α β : Type}

def give (a : α) : Action α := ⟨fun w => (.ok a, w)⟩

/-- Does one action, and with what it gives the next.  A failure ends the sequence. -/
def andThen (x : Action α) (k : α → Action β) : Action β :=
  ⟨fun w => match x.run w with
    | (.ok a, w') => (k a).run w'
    | (.error e, w') => (.error e, w')⟩

def fail (e : Failure) : Action α := ⟨fun w => (.error e, w)⟩

/-- Does an action and, if it fails, another one in the world it left. -/
def orElse (x : Action α) (k : Failure → Action α) : Action α :=
  ⟨fun w => match x.run w with
    | (.ok a, w') => (.ok a, w')
    | (.error e, w') => (k e).run w'⟩

instance instMonad : Monad Action where
  pure := give
  bind := andThen

instance instMonadExcept : MonadExceptOf Failure Action where
  throw := fail
  tryCatch := orElse

@[simp] theorem run_pure (a : α) (w : World) : (pure a : Action α).run w = (.ok a, w) := rfl

@[simp] theorem run_throw (e : Failure) (w : World) :
    (throw e : Action α).run w = (.error e, w) := rfl

theorem run_bind (x : Action α) (k : α → Action β) (w : World) :
    (x >>= k).run w = match x.run w with
      | (.ok a, w') => (k a).run w'
      | (.error e, w') => (.error e, w') := rfl

theorem run_bind_ok {x : Action α} {k : α → Action β} {w w' : World} {a : α}
    (h : x.run w = (.ok a, w')) : (x >>= k).run w = (k a).run w' := by
  rw [run_bind, h]

theorem run_bind_error {x : Action α} {k : α → Action β} {w w' : World} {e : Failure}
    (h : x.run w = (.error e, w')) : (x >>= k).run w = (.error e, w') := by
  rw [run_bind, h]

theorem map_id (x : Action α) : id <$> x = x := by
  show andThen x (fun a => give a) = x
  obtain ⟨f⟩ := x
  simp only [andThen, give]
  congr 1
  funext w
  split <;> simp_all

theorem andThen_assoc {γ : Type} (x : Action α) (f : α → Action β) (g : β → Action γ) :
    x >>= f >>= g = x >>= fun a => f a >>= g := by
  show andThen (andThen x f) g = andThen x fun a => andThen (f a) g
  simp only [andThen]
  congr 1
  funext w
  cases h : x.run w with
  | mk r w' => cases r <;> simp

instance instLawfulMonad : LawfulMonad Action :=
  LawfulMonad.mk' Action map_id (fun _ _ => rfl) andThen_assoc

def world : Action World := ⟨fun w => (.ok w, w)⟩

def change (f : World → World) : Action Unit := ⟨fun w => (.ok (), f w)⟩

def note (e : Event) : Action Unit := change fun w => { w with log := w.log ++ [e] }

/-- The next HTTP outcome.  When none is left there is no connection. -/
def nextOutcome : Action Outcome :=
  ⟨fun w => match w.outcomes with
    | [] => (.ok (.failed (.of (.connection "no scripted response"))), w)
    | o :: rest => (.ok o, { w with outcomes := rest })⟩

/-- The text of the identifier with a number: a UUID that ends in the number's digits. -/
def identifier (n : Nat) : String :=
  let digits := Nat.toDigits 10 n
  "00000000-0000-4000-8000-" ++
    String.ofList (List.replicate (12 - digits.length) '0' ++ digits)

def draw : Action String :=
  ⟨fun w => (.ok (identifier (w.drawn + 1)), { w with drawn := w.drawn + 1 })⟩

/-- The next reply under an override's name.  The last one stays. -/
def nextReply (name : String) : Action Reply :=
  ⟨fun w => match w.replies.get? name with
    | some (r :: r' :: rest) => (.ok r, { w with replies := w.replies.put name (r' :: rest) })
    | some [r] => (.ok r, w)
    | _ => (.ok .nothing, w)⟩

@[simp] theorem run_world (w : World) : world.run w = (.ok w, w) := rfl

@[simp] theorem run_change (f : World → World) (w : World) : (change f).run w = (.ok (), f w) := rfl

@[simp] theorem run_note (e : Event) (w : World) :
    (note e).run w = (.ok (), { w with log := w.log ++ [e] }) := rfl

@[simp] theorem run_draw (w : World) :
    draw.run w = (.ok (identifier (w.drawn + 1)), { w with drawn := w.drawn + 1 }) := rfl

/-- The outcome that the next request gets. -/
def upcoming (w : World) : Outcome :=
  w.outcomes.headD (.failed (.of (.connection "no scripted response")))

/-- The next outcome is the first of those that are left, and is used up. -/
theorem run_nextOutcome (w : World) :
    nextOutcome.run w = (.ok (upcoming w), { w with outcomes := w.outcomes.tail }) := by
  obtain ⟨clock, drawn, outcomes, rest⟩ := w
  cases outcomes <;> rfl

theorem run_map (f : α → β) (x : Action α) (w : World) :
    (f <$> x).run w = ((x.run w).1.map f, (x.run w).2) := by
  show (andThen x fun a => give (f a)).run w = _
  rcases h : x.run w with ⟨_ | a, w'⟩ <;> simp [andThen, give, h, Except.map]

theorem run_tryCatch (x : Action α) (k : Failure → Action α) (w : World) :
    (tryCatch x k).run w = match x.run w with
      | (.ok a, w') => (.ok a, w')
      | (.error e, w') => (k e).run w' := rfl

def ofResult : Except Failure α → Action α
  | .ok a => give a
  | .error e => fail e

/-- What may fail for a value of the wrong kind, as an action. -/
def ofMisfit (x : Except Misfit α) : Action α := Failure.orThrow .misfit x

@[simp] theorem run_orThrow_ok {ε : Type} (toFault : ε → Fault) (a : α) (w : World) :
    (Failure.orThrow toFault (.ok a) : Action α).run w = (.ok a, w) := rfl

@[simp] theorem run_orThrow_error {ε : Type} (toFault : ε → Fault) (e : ε) (w : World) :
    (Failure.orThrow toFault (.error e) : Action α).run w = (.error (Failure.of (toFault e)), w) :=
  rfl

end Action

end MachineCloud
