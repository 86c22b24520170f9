import MachineCloud.Client.Remote
import MachineCloud.Proofs.Api.Sending
import MachineCloud.Proofs.Lists

/-!
# Operations

The six operations of the remote client go the same way.  The arguments make an inquiry or fail, the
inquiry is sent, and the value of the response is read.  Only the inquiry and the reading are an
operation's own, so `run_perform` describes all six.
-/

namespace MachineCloud

/-- An operation of a client with its arguments. -/
inductive Operation where
  | createServer (project region : Value) (request : CreateRequest)
  | getServer (project region server : Value)
  | deleteServer (project region server : Value)
  | listServers (project region selector : Value)
  | listNics (project region server : Value)
  | updateNic (project region network nic addresses : Value)

/-- What is asked of the API. -/
structure Inquiry where
  method : String
  path : String
  params : Option (Entries Value) := none
  payload : Option Value := none

/-- The request that an inquiry goes out as. -/
def Inquiry.request (i : Inquiry) (h : Handle) (authorization : Option String) : Request :=
  h.request i.method i.path i.params i.payload authorization

/-- Sends an inquiry. -/
def Handle.sendInquiry (h : Handle) (i : Inquiry) : Action Value :=
  h.send i.method i.path i.params i.payload

/-- For an inquiry at most one request for a token is sent, and then at most its own request. -/
theorem Handle.log_sendInquiry (h : Handle) (i : Inquiry) (w : World) :
    ∃ tokens requests, Authentication.SendsToken tokens ∧
      (requests = [] ∨ ∃ authorization, requests = [.request (i.request h authorization)]) ∧
      ((h.sendInquiry i).run w).2.log = w.log ++ (tokens ++ requests) := by
  have hsending := h.send_spec i.method i.path i.params i.payload w
  rw [sendInquiry]
  generalize (h.send i.method i.path i.params i.payload).run w = ran at hsending ⊢
  cases hsending with
  | @unauthorized _ _ sent hsent hlog _ _ _ =>
    exact ⟨sent, [], hsent, .inl rfl, hlog.trans (congrArg _ (List.append_nil sent).symm)⟩
  | @answered authorization _ sent _ hsent hlog _ _ _ =>
    exact ⟨sent, _, hsent, .inr ⟨authorization, rfl⟩, hlog.trans (List.append_assoc _ _ _)⟩

namespace Operation

/-- The operation as a client does it. -/
def perform {m : Type → Type} [Monad m] (client : Client m) : Operation → m Reply
  | createServer project region request =>
    (fun s => s.elim .nothing .server) <$> client.createServer project region request
  | getServer project region server =>
    (fun s => s.elim .nothing .server) <$> client.getServer project region server
  | deleteServer project region server =>
    (fun _ => .nothing) <$> client.deleteServer project region server
  | listServers project region selector =>
    (fun ss => ss.elim .nothing .servers) <$> client.listServers project region selector
  | listNics project region server =>
    (fun ns => ns.elim .nothing .nics) <$> client.listNics project region server
  | updateNic project region network nic addresses =>
    (fun n => n.elim .nothing .nic) <$> client.updateNic project region network nic addresses

/-- What the operation asks, if its arguments allow it. -/
def inquiry : Operation → Except Failure Inquiry
  | createServer project region request => do
    let request ← Failure.orThrow id request.checked
    let payload ← Failure.orThrow .misfit request.toWire
    let path ← Failure.orThrow .misfit (Handle.path project region [.str "servers"])
    return { method := "POST", path := path, payload := some (.map payload) }
  | getServer project region server => do
    let path ← Failure.orThrow .misfit (Handle.path project region [.str "servers", server])
    return { method := "GET", path := path }
  | deleteServer project region server => do
    let path ← Failure.orThrow .misfit (Handle.path project region [.str "servers", server])
    return { method := "DELETE", path := path }
  | listServers project region selector => do
    let query ← Failure.orThrow .misfit (Remote.selectorQuery selector)
    let path ← Failure.orThrow .misfit (Handle.path project region [.str "servers"])
    return { method := "GET", path := path, params := Handle.listQuery query (.bool false) }
  | listNics project region server => do
    let path ← Failure.orThrow .misfit
      (Handle.path project region [.str "servers", server, .str "nics"])
    return { method := "GET", path := path }
  | updateNic project region network nic addresses => do
    let payload ← Failure.orThrow .misfit (Remote.addressPayload addresses)
    let path ← Failure.orThrow .misfit
      (Handle.path project region [.str "networks", network, .str "nics", nic])
    return { method := "PATCH", path := path, payload := some payload }

/-- What the operation makes of the value of a response. -/
def read (op : Operation) (v : Value) : Except Misfit Reply :=
  match op with
  | createServer .. => .server <$> Server.fromWire (Handle.orEmptyMap v)
  | getServer .. => .server <$> Server.fromWire (Handle.orEmptyMap v)
  | deleteServer .. => pure .nothing
  | listServers .. => .servers <$> Remote.serversOf (Handle.orEmptyMap v)
  | listNics .. => .nics <$> Remote.nicsOf (Handle.orEmptyMap v)
  | updateNic .. => .nic <$> Nic.fromWire (Handle.orEmptyMap v)

/-- What the operation makes of a response. -/
def answer (op : Operation) (result : Except Failure Value) : Except Failure Reply := do
  Failure.orThrow .misfit (op.read (← result))

end Operation

/-- The payload for a list of addresses holds just that list. -/
theorem Remote.addressPayload_list (addresses : List Value) :
    addressPayload (.list addresses) = .ok (.map [("allowedAddresses", .list addresses)]) := by
  cases addresses <;> rfl

/-! ## Results -/

/-- A sequence of actions succeeds only if its first action does, and the rest in the world that the
first one leaves. -/
theorem Action.exists_of_run_bind_eq_ok {α β : Type} {x : Action α} {k : α → Action β} {w : World}
    {b : β} (h : ((x >>= k).run w).1 = .ok b) :
    ∃ a w', x.run w = (.ok a, w') ∧ ((k a).run w').1 = .ok b := by
  rcases hrun : x.run w with ⟨failure | a, w'⟩
  · rw [run_bind_error hrun] at h
    cases h
  · rw [run_bind_ok hrun] at h
    exact ⟨a, w', rfl, h⟩

theorem Failure.eq_ok_of_orThrow {ε α : Type} {toFault : ε → Fault} {x : Except ε α} {a : α}
    (h : (orThrow toFault x : Except Failure α) = .ok a) : x = .ok a := by
  cases x <;> cases h
  rfl

/-! ## The way of an operation -/

namespace Action

variable {α β ε : Type}

theorem orThrow_pure (toFault : ε → Fault) (a : α) :
    (Failure.orThrow toFault (pure a) : Action α) = pure a := rfl

theorem orThrow_bind (toFault : ε → Fault) (x : Except ε α) (k : α → Except ε β) :
    (Failure.orThrow toFault (x >>= k) : Action β) =
      Failure.orThrow toFault x >>= fun a => Failure.orThrow toFault (k a) := by
  cases x <;> rfl

theorem ofResult_pure (a : α) : ofResult (pure a) = pure a := rfl

theorem ofResult_orThrow_bind (toFault : ε → Fault) (x : Except ε α) (k : α → Except Failure β) :
    ofResult (Failure.orThrow toFault x >>= k) =
      Failure.orThrow toFault x >>= fun a => ofResult (k a) := by
  cases x <;> rfl

end Action

/-- An operation of the remote client sends its inquiry and reads the value of the response. -/
theorem Operation.perform_eq (h : Handle) (op : Operation) :
    op.perform (Remote.client h) = (do
      let i ← Action.ofResult op.inquiry
      let v ← h.sendInquiry i
      Action.ofMisfit (op.read v)) := by
  cases op <;>
    simp only [perform, Remote.client, inquiry, read, Handle.createServer, Handle.getServer,
      Handle.deleteServer, Handle.listServers, Handle.listNics, Handle.updateNic, Handle.call,
      Handle.sendInquiry, Action.ofMisfit, Action.ofResult_orThrow_bind, Action.ofResult_pure,
      Action.orThrow_bind, Action.orThrow_pure, map_eq_pure_bind, bind_assoc, pure_bind,
      Option.elim_some]

/-- An operation that has no inquiry fails at once. -/
theorem Operation.run_perform_of_error (h : Handle) {op : Operation} {failure : Failure}
    (hinquiry : op.inquiry = .error failure) (w : World) :
    (op.perform (Remote.client h)).run w = (.error failure, w) := by
  rw [perform_eq, hinquiry]
  rfl

/-- Any other operation gives what it makes of the response to its inquiry. -/
theorem Operation.run_perform (h : Handle) {op : Operation} {i : Inquiry}
    (hinquiry : op.inquiry = .ok i) (w : World) :
    (op.perform (Remote.client h)).run w =
      (op.answer ((h.sendInquiry i).run w).1, ((h.sendInquiry i).run w).2) := by
  rw [perform_eq, hinquiry]
  have hok : Action.ofResult (.ok i : Except Failure Inquiry) = pure i := rfl
  rw [hok, pure_bind, Action.run_bind, answer]
  rcases (h.sendInquiry i).run w with ⟨failure | v, w'⟩
  · rfl
  · change (Action.ofMisfit (op.read v)).run w' = _
    rw [Action.ofMisfit]
    change _ = (Failure.orThrow Fault.misfit (op.read v), w')
    rcases op.read v with misfit | reply <;> rfl

end MachineCloud
