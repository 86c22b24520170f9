import MachineCloud.Client.Registry
import MachineCloud.Machine.Addresses
import MachineCloud.Machine.Lookup
import MachineCloud.Proofs.Api.Operation
import MachineCloud.Proofs.World.Confined

/-!
# The conduct of clients

All that a client does to the world is to send requests: `Remote.confined_client` says so of the remote
client, whose handle decides which requests these are, and `Overridden.confined_client` of the client
without a backend, which sends none.  Whatever is done with the operations of a client is confined in
the same way.
-/

namespace MachineCloud

open MachineCloud.Action

variable {p : Event → Prop}

/-! ## Tokens -/

namespace Account.KeyFlow

theorem confined_buildAssertion (k : KeyFlow) : Confined p k.buildAssertion := by
  refine confined_world (fun w => ?_) fun _ _ => rfl
  refine (confined_orThrow fun fault hfault => ?_).bind fun now => confined_draw.bind fun _ => ?_
  · have hnumeric := isNumeric_of_truncate hfault
    cases fault with
    | interrupt _ => cases hnumeric
    | _ => rfl
  · split
    · exact confined_pure _
    · exact confined_throw rfl

/-- A response never interrupts an exchange. -/
theorem isInterrupt_of_delivered {status : Int} {reason : String} {body : Bytes} {failure : Failure}
    (h : delivered (.response status reason body) = .error failure) :
    failure.fault.isInterrupt = false := by
  simp only [delivered] at h
  split at h
  · cases h
    rfl
  · split at h
    · cases h
      rfl
    · cases h
      rw [Failure.fault_raisedFrom]
      rfl
    · split at h
      · split at h
        · cases h
          rfl
        · cases h
      · cases h
        rfl

/-- Taking the token out of a response touches the cache only. -/
theorem confined_receive (status : Int) (reason : String) (body : Bytes) :
    Confined p (receive status reason body) := by
  refine ⟨fun w environment => ?_, fun w => ?_⟩
  · rw [run_receive, run_receive]
    rfl
  · rw [run_receive]
    refine confines_of_eq rfl rfl fun failure hfailure => ?_
    simp only [settle] at hfailure
    split at hfailure
    · next hdelivered =>
      cases hfailure
      exact isInterrupt_of_delivered hdelivered
    · split at hfailure
      · next fault hexpiry =>
        cases hfailure
        have hnumeric := isNumeric_of_expiry hexpiry
        cases fault with
        | interrupt _ => cases hnumeric
        | _ => rfl
      · cases hfailure

variable (hp : ∀ url assertion timeout, p (.tokenRequest url assertion timeout))
include hp

theorem confined_refresh (k : KeyFlow) : Confined p k.refresh := by
  refine k.confined_buildAssertion.bind fun assertion => (confined_note (hp _ _ _)).bind fun _ => ?_
  exact confined_nextOutcome confined_receive fun _ => rfl

theorem confined_accessToken (k : KeyFlow) : Confined p k.accessToken := by
  refine confined_world (fun w => ?_) fun _ _ => rfl
  split
  · exact confined_pure _
  · refine (k.confined_refresh hp).bind fun _ => confined_world (fun _ => confined_pure _) ?_
    exact fun _ _ => rfl

end Account.KeyFlow

/-! ## Requests -/

namespace Handle

/-- The events that the use of a handle may cause.  Only an authentication asks for tokens, and without
one no authorization goes with a request. -/
def Causes (h : Handle) : Event → Prop
  | .request r => h.authentication = .none → r.authorization = none
  | .tokenRequest .. => h.authentication ≠ .none
  | _ => False

variable (h : Handle)

/-- Sends a request under an authorization and takes the answer. -/
def transmit (method path : String) (params : Option (Entries Value)) (payload : Option Value)
    (authorization : Option String) : Action Value := do
  Action.note (.request (h.request method path params payload authorization))
  Action.ofResult (content (← Action.nextOutcome))

/-- To send a request is to authorize it, and then to transmit it. -/
theorem send_eq (method path : String) (params : Option (Entries Value)) (payload : Option Value) :
    h.send method path params payload =
      h.authentication.authorization >>= h.transmit method path params payload := by
  unfold send
  refine congrArg (h.authentication.authorization >>= ·) (funext fun authorization => ?_)
  refine congrArg (Action.note _ >>= ·) (funext fun _ => ?_)
  refine congrArg (Action.nextOutcome >>= ·) (funext fun outcome => ?_)
  cases content outcome <;> rfl

theorem confined_transmit (method path : String) (params : Option (Entries Value))
    (payload : Option Value) {authorization : Option String}
    (h' : h.authentication = .none → authorization = none) :
    Confined h.Causes (h.transmit method path params payload authorization) := by
  have hcaused : h.Causes (.request (h.request method path params payload authorization)) := h'
  refine (confined_note hcaused).bind fun _ => confined_nextOutcome ?_ fun _ => rfl
  intro status reason body
  cases hcontent : content (.response status reason body) with
  | ok v => exact confined_pure v
  | error failure =>
    refine confined_throw ?_
    simp only [content, Http.content] at hcontent
    split at hcontent
    · cases hcontent
      rfl
    · split at hcontent
      · cases hcontent
      · split at hcontent <;> cases hcontent
        rfl

/-- Sending a request causes nothing else. -/
theorem confined_send (method path : String) (params : Option (Entries Value))
    (payload : Option Value) : Confined h.Causes (h.send method path params payload) := by
  rw [send_eq]
  cases hauthentication : h.authentication with
  | none => exact h.confined_transmit method path params payload fun _ => rfl
  | fixed text =>
    have hfixed (hnone : h.authentication = .none) : some text = none := by
      rw [hauthentication] at hnone
      cases hnone
    exact h.confined_transmit method path params payload hfixed
  | keyFlow flow =>
    have hpresent : h.authentication ≠ .none := by
      rw [hauthentication]
      intro hnone
      cases hnone
    have htoken : Confined h.Causes flow.accessToken :=
      flow.confined_accessToken fun _ _ _ => hpresent
    refine ((htoken.map _).map some).bind fun authorization => ?_
    exact h.confined_transmit method path params payload fun hnone => absurd hnone hpresent

theorem confined_call (method : String) (project region : Value) (parts : List Value)
    (params : Option (Entries Value)) (payload : Option Value) :
    Confined h.Causes (h.call method project region parts params payload) :=
  (confined_ofMisfit _).bind fun path => h.confined_send method path params payload

end Handle

/-! ## Operations -/

/-- Whether the operations of a client are confined to some events. -/
structure Client.Confined (p : Event → Prop) (client : Client Action) : Prop where
  createServer : ∀ project region request,
    Action.Confined p (client.createServer project region request)
  getServer : ∀ project region server, Action.Confined p (client.getServer project region server)
  deleteServer : ∀ project region server,
    Action.Confined p (client.deleteServer project region server)
  listServers : ∀ project region selector,
    Action.Confined p (client.listServers project region selector)
  listNics : ∀ project region server, Action.Confined p (client.listNics project region server)
  updateNic : ∀ project region network nic addresses,
    Action.Confined p (client.updateNic project region network nic addresses)

/-- Then so is every operation as a whole. -/
theorem Client.Confined.perform {client : Client Action} (h : client.Confined p) (op : Operation) :
    Action.Confined p (op.perform client) := by
  cases op with
  | createServer _ _ _ => exact (h.createServer _ _ _).map _
  | getServer _ _ _ => exact (h.getServer _ _ _).map _
  | deleteServer _ _ _ => exact (h.deleteServer _ _ _).map _
  | listServers _ _ _ => exact (h.listServers _ _ _).map _
  | listNics _ _ _ => exact (h.listNics _ _ _).map _
  | updateNic _ _ _ _ _ => exact (h.updateNic _ _ _ _ _).map _

/-- A request that cannot be made is no interrupt. -/
theorem CreateRequest.isInterrupt_of_checked {request : CreateRequest} {fault : Fault}
    (h : request.checked = .error fault) : fault.isInterrupt = false := by
  rw [checked] at h
  split at h
  · cases h
  · cases h
    rfl

/-- The operations of a remote client cause what its handle may cause. -/
theorem Remote.confined_client (h : Handle) : (Remote.client h).Confined h.Causes where
  createServer project region request := by
    refine (confined_orThrow fun _ => CreateRequest.isInterrupt_of_checked).bind fun checked => ?_
    refine (confined_ofMisfit _).bind fun payload => ?_
    exact ((h.confined_call _ _ _ _ _ _).map _).bind fun data => (confined_ofMisfit _).map some
  getServer project region server :=
    ((h.confined_call _ _ _ _ _ _).map _).bind fun data => (confined_ofMisfit _).map some
  deleteServer project region server := (h.confined_call _ _ _ _ _ _).map _
  listServers project region selector := by
    refine (confined_ofMisfit _).bind fun query => ?_
    exact ((h.confined_call _ _ _ _ _ _).map _).bind fun data => (confined_ofMisfit _).map some
  listNics project region server :=
    ((h.confined_call _ _ _ _ _ _).map _).bind fun data => (confined_ofMisfit _).map some
  updateNic project region network nic addresses := by
    refine (confined_ofMisfit _).bind fun payload => ?_
    exact ((h.confined_call _ _ _ _ _ _).map _).bind fun data => (confined_ofMisfit _).map some

/-- A client that nothing overrides causes nothing. -/
theorem Overridden.confined_client : (Overridden.client {}).Confined p where
  createServer _ _ _ := confined_pure _
  getServer _ _ _ := confined_pure _
  deleteServer _ _ _ := confined_pure _
  listServers _ _ _ := confined_pure _
  listNics _ _ _ := confined_pure _
  updateNic _ _ _ _ _ := (confined_ofMisfit _).bind fun _ => confined_pure _

/-! ## What is done with the operations -/

namespace Machine

variable {client : Client Action} (hclient : client.Confined p) (project region : Value)
include hclient

theorem confined_getServer (name : Value) : Confined p (getServer client project region name) := by
  have hfind : Confined p (findServer client project region name) := by
    refine (hclient.listServers _ _ _).bind fun servers? => ?_
    cases servers? with
    | none => exact confined_throw rfl
    | some servers =>
      show Confined p (ite _ _ _)
      split
      · exact confined_throw rfl
      · exact confined_pure servers.head?
  refine hfind.bind fun server? => ?_
  cases server? with
  | none => exact confined_throw rfl
  | some server => exact confined_pure server

/-- An interrupt is passed on by a deletion, like every failure but the one. -/
theorem confined_deleteIfExists (server : Value) :
    Confined p (deleteIfExists client project region server) := by
  refine Confined.tryCatch ((hclient.deleteServer _ _ _).bind fun _ => confined_pure true) ?_
  intro failure
  cases hgone : isAlreadyGone failure with
  | true => exact .inl (by rw [if_pos rfl]; exact confined_pure false)
  | false => exact .inr (if_neg nofun)

theorem confined_updateAll (scope : Scope) (wanted : Value) (nics : List Nic) :
    Confined p (updateAll client project region scope wanted nics) := by
  induction nics with
  | nil => exact confined_pure 0
  | cons nic rest ih =>
    refine (confined_orThrow fun _ _ => rfl).bind fun addresses? => ?_
    cases addresses? with
    | none => exact ih
    | some addresses =>
      exact (hclient.updateNic _ _ _ _ _).bind fun _ => ih.bind fun n => confined_pure (n + 1)

theorem confined_ensureAllowed (server wanted : Value) (scope : Scope) :
    Confined p (ensureAllowed client project region server wanted scope) := by
  unfold ensureAllowed
  split
  · exact confined_pure 0
  · refine (hclient.listNics _ _ _).bind fun nics? => ?_
    split
    · exact confined_throw rfl
    · exact confined_throw rfl
    · exact confined_updateAll hclient _ _ _ _ _

end Machine

end MachineCloud
