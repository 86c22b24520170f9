import Mathlib.Data.List.Induction
import MachineCloud.Proofs.Api.Typed

/-!
# One round-trip for each operation

A run performs well-typed operations one after the other with the same handle.  Time may pass either way
between two of them, operations may fail, and all of them share the token in the cache.  Each operation
sends at most one request for a token and then at most one request to the API, and each request gets the
outcome of the script whose turn it is.  `roundTrip_of_outcomes` says so of one operation in any world
that has used up some of the script, and `roundTrip_after` of every operation of every run.
-/

namespace MachineCloud

open Account.KeyFlow (delivered)
open Authentication (SendsToken)

/-! ## Turns -/

/-- An operation, and the time at which it is performed. -/
structure Turn where
  clock : Value.Numeric
  operation : TypedOperation

/-- Whether an event is a request, for a token or to the API. -/
def Event.IsRequest : Event → Prop
  | request _ => True
  | tokenRequest .. => True
  | _ => False

/-- The outcome that a script has for a request.  Beyond its end there is no connection. -/
def scripted (script : List Outcome) (n : Nat) : Outcome :=
  script.getD n (.failed (.of (.connection "no scripted response")))

/-- What comes next in a world that has used up some of a script. -/
theorem Action.upcoming_of_drop {w : World} {script : List Outcome} {n : Nat}
    (h : w.outcomes = script.drop n) : upcoming w = scripted script n := by
  rw [upcoming, h, scripted, List.headD_eq_head?_getD, List.head?_drop, List.getD_eq_getElem?_getD]

namespace Turn

/-- The world in which the operation is performed. -/
def enter (t : Turn) (w : World) : World := { w with clock := t.clock }

/-- Performs the operation. -/
def perform (t : Turn) (h : Handle) (w : World) : Except Failure Reply × World :=
  (t.operation.untyped.perform (Remote.client h)).run (t.enter w)

/-- The world after some turns, whatever their operations came to. -/
def after (h : Handle) (w : World) (turns : List Turn) : World :=
  turns.foldl (fun w t => (t.perform h w).2) w

/-- The world after one more turn. -/
theorem after_concat (h : Handle) (w : World) (turns : List Turn) (t : Turn) :
    after h w (turns ++ [t]) = (t.perform h (after h w turns)).2 := by
  rw [after, List.foldl_append]
  rfl

/-- The request to the API that the operation is for. -/
def request (t : Turn) (h : Handle) (authorization : Option String) : Event :=
  .request (t.operation.call.inquiry.request h authorization)

/-- What asking a key flow for a token comes to when the operation is performed. -/
def access (t : Turn) (flow : Account.KeyFlow) (w : World) : Except Failure Value × World :=
  flow.accessToken.run (t.enter w)

end Turn

/-! ## Asking for a token -/

namespace Account.KeyFlow

/-- What a call for a token in a world comes to that sends the requests `tokens`. -/
structure Accesses (w : World) (ran : Except Failure Value × World) (tokens : List Event) :
    Prop where
  sends : SendsToken tokens
  log : ran.2.log = w.log ++ tokens
  outcomes : ran.2.outcomes = w.outcomes.drop tokens.length
  /-- A token that has been asked for is the one that the answer delivers. -/
  granted : ∀ token, ran.1 = .ok token → tokens ≠ [] →
    ∃ lifetime, delivered (Action.upcoming w) = .ok (token, lifetime)
  /-- If the answer delivers none, the call fails for the same reason. -/
  refused : ∀ failure, tokens ≠ [] → delivered (Action.upcoming w) = .error failure →
    ran.1 = .error failure

/-- Every call for a token is one of these. -/
theorem accesses (flow : Account.KeyFlow) (w : World) :
    ∃ tokens, Accesses w (flow.accessToken.run w) tokens := by
  obtain ⟨n, hn⟩ := flow.run_accessToken w
  rw [hn]
  have hcourse := flow.course_spec w.cache (.ofWorld w)
  generalize (flow.course w.cache (.ofWorld w)).1 = a,
    (flow.course w.cache (.ofWorld w)).2 = cache at hcourse ⊢
  refine ⟨a.sent, (Authentication.authorizes_of_course hcourse).sends, rfl, rfl, ?_, ?_⟩
  · intro token htoken hasked
    cases hcourse with
    | held _ => exact absurd rfl hasked
    | unsigned _ _ => cases htoken
    | refused _ _ _ => cases htoken
    | unbounded _ _ _ _ => cases htoken
    | renewed _ _ hdelivered _ =>
      cases htoken
      exact ⟨_, hdelivered⟩
  · intro failure hasked hrefused
    cases hcourse with
    | held _ => exact absurd rfl hasked
    | unsigned _ _ => exact absurd rfl hasked
    | refused _ _ hdelivered =>
      cases hdelivered.symm.trans hrefused
      rfl
    | unbounded _ _ hdelivered _ => cases hdelivered.symm.trans hrefused
    | renewed _ _ hdelivered _ => cases hdelivered.symm.trans hrefused

end Account.KeyFlow

/-! ## Round-trips -/

section

variable (h : Handle) (script : List Outcome) (n : Nat) (t : Turn) (w : World)
  (tokens requests : List Event)

/-- What an operation sends that is performed in `w` after `n` requests of a script: the requests
`tokens` for a token, and then the requests `requests` to the API. -/
structure Passage : Prop where
  log : (t.perform h w).2.log = w.log ++ tokens ++ requests
  /-- At most one request for a token. -/
  tokens_eq : SendsToken tokens
  /-- At most one request to the API. -/
  requests_eq : requests = [] ∨ ∃ authorization, requests = [t.request h authorization]
  /-- Each request uses up one outcome. -/
  outcomes : (t.perform h w).2.outcomes = script.drop (n + tokens.length + requests.length)
  /-- The request to the API is answered by the outcome whose turn it is. -/
  answered : requests ≠ [] → (t.perform h w).1 =
    t.operation.untyped.answer (Handle.content (scripted script (n + tokens.length)))

/-- How a key flow authorizes the operation. -/
structure AuthorizedBy (flow : Account.KeyFlow) : Prop where
  /-- It is the flow that asks for a token. -/
  log : (t.access flow w).2.log = w.log ++ tokens
  /-- The request to the API is sent exactly if the flow gives a token. -/
  sent_iff : requests ≠ [] ↔ ∃ token, (t.access flow w).1 = .ok token
  /-- It carries the token that the flow gives. -/
  carried : ∀ token, (t.access flow w).1 = .ok token →
    requests = [t.request h (some ("Bearer " ++ token.text))]
  /-- That is the token just delivered, if the flow has asked for one. -/
  granted : ∀ token, (t.access flow w).1 = .ok token → tokens ≠ [] →
    ∃ lifetime, delivered (scripted script n) = .ok (token, lifetime)
  /-- If none is delivered, the flow fails for the same reason. -/
  refused : ∀ failure, tokens ≠ [] → delivered (scripted script n) = .error failure →
    (t.access flow w).1 = .error failure
  /-- If the flow fails, so does the operation. -/
  failed : ∀ failure, (t.access flow w).1 = .error failure → (t.perform h w).1 = .error failure

/-- What an operation sends, and how that is authorized. -/
structure RoundTrip : Prop extends Passage h script n t w tokens requests where
  /-- Without authentication there is just the request, and no authorization goes with it. -/
  unauthenticated : h.authentication = .none → tokens = [] ∧ requests = [t.request h none]
  /-- So it is with a fixed authorization, which goes with the request. -/
  fixed : ∀ text, h.authentication = .fixed text →
    tokens = [] ∧ requests = [t.request h (some text)]
  keyFlow : ∀ flow, h.authentication = .keyFlow flow →
    AuthorizedBy h script n t w tokens requests flow

end

namespace Turn

variable {h : Handle} {script : List Outcome} {n : Nat} {t : Turn} {w w' : World}
  {tokens : List Event}

/-- Whatever an operation sends is a request. -/
theorem isRequest_of_mem {requests : List Event}
    (hpassage : Passage h script n t w tokens requests) {event : Event}
    (hmem : event ∈ tokens ++ requests) : event.IsRequest := by
  rcases List.mem_append.mp hmem with hmem | hmem
  · rcases hpassage.tokens_eq with rfl | ⟨url, assertion, timeout, rfl⟩
    · cases hmem
    · cases List.mem_singleton.mp hmem
      trivial
  · rcases hpassage.requests_eq with rfl | ⟨authorization, rfl⟩
    · cases hmem
    · cases List.mem_singleton.mp hmem
      trivial

/-- An operation that is authorized sends its request, and the outcome of that decides. -/
theorem perform_of_authorized {authorization : Option String}
    (hrun : h.authentication.authorization.run (t.enter w) = (.ok authorization, w')) :
    t.perform h w =
      (t.operation.untyped.answer (Handle.content (Action.upcoming w')), { w' with
        outcomes := w'.outcomes.tail
        log := w'.log ++ [t.request h authorization] }) := by
  rw [perform, Operation.run_perform h t.operation.inquiry_untyped, Handle.sendInquiry,
    Handle.run_send_of_authorized _ _ _ _ _ hrun]
  rfl

/-- An operation that is not authorized fails without a request to the API. -/
theorem perform_of_unauthorized {failure : Failure}
    (hrun : h.authentication.authorization.run (t.enter w) = (.error failure, w')) :
    t.perform h w = (.error failure, w') := by
  rw [perform, Operation.run_perform h t.operation.inquiry_untyped, Handle.sendInquiry,
    Handle.send, Action.run_bind_error hrun]
  rfl

theorem passage_of_authorized {authorization : Option String}
    (hrun : h.authentication.authorization.run (t.enter w) = (.ok authorization, w'))
    (htokens : SendsToken tokens) (hlog : w'.log = w.log ++ tokens)
    (houtcomes : w'.outcomes = script.drop (n + tokens.length)) :
    Passage h script n t w tokens [t.request h authorization] where
  log := by rw [perform_of_authorized hrun, hlog]
  tokens_eq := htokens
  requests_eq := .inr ⟨authorization, rfl⟩
  outcomes := by
    rw [perform_of_authorized hrun]
    exact (congrArg List.tail houtcomes).trans List.tail_drop
  answered _ := by rw [perform_of_authorized hrun, Action.upcoming_of_drop houtcomes]

theorem passage_of_unauthorized {failure : Failure}
    (hrun : h.authentication.authorization.run (t.enter w) = (.error failure, w'))
    (htokens : SendsToken tokens) (hlog : w'.log = w.log ++ tokens)
    (houtcomes : w'.outcomes = script.drop (n + tokens.length)) :
    Passage h script n t w tokens [] where
  log := by rw [perform_of_unauthorized hrun, hlog, List.append_nil]
  tokens_eq := htokens
  requests_eq := .inl rfl
  outcomes := by rw [perform_of_unauthorized hrun, houtcomes, List.length_nil, Nat.add_zero]
  answered hne := absurd rfl hne

/-- With a key flow the operation is authorized by the token that the flow gives. -/
theorem run_authorization_keyFlow {flow : Account.KeyFlow}
    (hflow : h.authentication = .keyFlow flow) :
    h.authentication.authorization.run (t.enter w) =
      ((t.access flow w).1.map fun token => some ("Bearer " ++ token.text),
        (t.access flow w).2) := by
  rw [hflow]
  simp only [Authentication.authorization, Account.KeyFlow.authorization, Action.run_bind, access]
  rcases flow.accessToken.run (t.enter w) with ⟨failure | token, w'⟩ <;> rfl

theorem roundTrip_of_keyFlow {flow : Account.KeyFlow} (hflow : h.authentication = .keyFlow flow)
    (houtcomes : w.outcomes = script.drop n) :
    ∃ tokens requests, RoundTrip h script n t w tokens requests := by
  have hrun := run_authorization_keyFlow (t := t) (w := w) hflow
  obtain ⟨tokens, hsends, hlog, hdrop, hgranted, hrefused⟩ := flow.accesses (t.enter w)
  rw [Action.upcoming_of_drop (w := t.enter w) houtcomes] at hgranted hrefused
  have hused : (t.access flow w).2.outcomes = script.drop (n + tokens.length) :=
    hdrop.trans ((congrArg (List.drop tokens.length) houtcomes).trans List.drop_drop)
  cases hresult : (t.access flow w).1 with
  | error failure =>
    rw [hresult] at hrun
    refine ⟨tokens, [], passage_of_unauthorized hrun hsends hlog hused, by simp [hflow],
      by simp [hflow], fun flow' hflow' => ?_⟩
    cases hflow.symm.trans hflow'
    refine ⟨hlog, by simp [hresult], by simp [hresult], hgranted, hrefused, fun f hf => ?_⟩
    cases hresult.symm.trans hf
    rw [perform_of_unauthorized hrun]
  | ok token =>
    rw [hresult] at hrun
    refine ⟨tokens, _, passage_of_authorized hrun hsends hlog hused, by simp [hflow],
      by simp [hflow], fun flow' hflow' => ?_⟩
    cases hflow.symm.trans hflow'
    refine ⟨hlog, by simp [hresult], fun token' htoken => ?_, hgranted, hrefused,
      by simp [hresult]⟩
    cases hresult.symm.trans htoken
    rfl

/-- One operation is one round-trip, in any world that has used up some of a script. -/
theorem roundTrip_of_outcomes (h : Handle) (t : Turn) (houtcomes : w.outcomes = script.drop n) :
    ∃ tokens requests, RoundTrip h script n t w tokens requests := by
  cases hauth : h.authentication with
  | none =>
    have hrun : h.authentication.authorization.run (t.enter w) = (.ok none, t.enter w) := by
      rw [hauth]
      rfl
    have hpassage := passage_of_authorized hrun (.inl rfl) (List.append_nil _).symm houtcomes
    exact ⟨[], _, hpassage, fun _ => ⟨rfl, rfl⟩, by simp [hauth], by simp [hauth]⟩
  | fixed text =>
    have hrun : h.authentication.authorization.run (t.enter w) = (.ok (some text), t.enter w) := by
      rw [hauth]
      rfl
    have hpassage := passage_of_authorized hrun (.inl rfl) (List.append_nil _).symm houtcomes
    refine ⟨[], _, hpassage, by simp [hauth], fun text' htext => ?_, by simp [hauth]⟩
    cases hauth.symm.trans htext
    exact ⟨rfl, rfl⟩
  | keyFlow flow => exact roundTrip_of_keyFlow hauth houtcomes

/-! ## Runs -/

/-- A run logs requests only, and uses up one outcome for each. -/
theorem log_after (h : Handle) (w : World) (turns : List Turn) :
    ∃ sent, (after h w turns).log = w.log ++ sent ∧ (∀ event ∈ sent, event.IsRequest) ∧
      (after h w turns).outcomes = w.outcomes.drop sent.length := by
  induction turns using List.reverseRecOn with
  | nil => exact ⟨[], (List.append_nil _).symm, by simp, rfl⟩
  | append_singleton turns t ih =>
    obtain ⟨sent, hlog, hsent, houtcomes⟩ := ih
    obtain ⟨tokens, requests, htrip⟩ := roundTrip_of_outcomes h t houtcomes
    refine ⟨sent ++ (tokens ++ requests), ?_, ?_, ?_⟩
    · rw [after_concat, htrip.log, hlog, List.append_assoc, List.append_assoc]
    · intro event hmem
      exact (List.mem_append.mp hmem).elim (hsent event) (isRequest_of_mem htrip.toPassage)
    · rw [after_concat, htrip.outcomes, List.length_append, List.length_append, Nat.add_assoc]

/-- Every operation of a run is one round-trip, and goes on in the script where the requests before it
have left off. -/
theorem roundTrip_after (h : Handle) (w : World) (turns : List Turn) (t : Turn) :
    ∃ sent tokens requests, (after h w turns).log = w.log ++ sent ∧
      (∀ event ∈ sent, event.IsRequest) ∧
      (after h w turns).outcomes = w.outcomes.drop sent.length ∧
      RoundTrip h w.outcomes sent.length t (after h w turns) tokens requests := by
  obtain ⟨sent, hlog, hsent, houtcomes⟩ := log_after h w turns
  obtain ⟨tokens, requests, htrip⟩ := roundTrip_of_outcomes h t houtcomes
  exact ⟨sent, tokens, requests, hlog, hsent, houtcomes, htrip⟩

end Turn

end MachineCloud
