import MachineCloud.Api
import MachineCloud.Proofs.Failure.Foreign
import MachineCloud.Proofs.KeyFlow.Exchange
import MachineCloud.Proofs.Lists

/-!
# What sending a request comes to

A request to the API goes out after its authorization, which may need a token first.  So what is sent
is at most one request for a token and then at most one request to the API, each of which uses up one
outcome.  `authorization_spec` says what the authorization does to the world, and `send_spec` what the
whole request does.

What was sent in a stretch of a run, and what it was answered with, is its `dialogue`.
-/

namespace MachineCloud

/-! ## Dialogues -/

/-- What was sent between a world and a later one, each with the outcome that it got. -/
def World.dialogue (w w' : World) : List (Event × Outcome) :=
  (w'.log.drop w.log.length).zip w.outcomes

/-- The dialogue up to a world whose log goes on where the first one ends. -/
theorem World.dialogue_of_append {w w' : World} {sent : List Event}
    (h : w'.log = w.log ++ sent) : w.dialogue w' = sent.zip w.outcomes := by
  rw [dialogue, h, List.drop_left]

/-- The next outcome is the first of those that are left. -/
theorem Action.upcoming_of_head? {w : World} {o : Outcome} (h : w.outcomes.head? = some o) :
    upcoming w = o := by
  rw [upcoming, List.headD_eq_head?_getD, h]
  rfl

/-- A response that comes next is the first of the outcomes that are left. -/
theorem Action.head?_of_upcoming {w : World} {status : Int} {reason : String} {body : Bytes}
    (h : upcoming w = .response status reason body) :
    w.outcomes.head? = some (.response status reason body) := by
  rw [upcoming] at h
  cases hw : w.outcomes with
  | nil =>
    rw [hw] at h
    cases h
  | cons o rest =>
    rw [hw] at h
    exact congrArg some h

/-- Without an API error among the scripted failures, the next outcome is no API error. -/
theorem Action.isForeign_upcoming {w : World}
    (hw : ∀ failure, .failed failure ∈ w.outcomes → failure.IsForeign) {failure : Failure}
    (h : upcoming w = .failed failure) : failure.IsForeign := by
  rcases hw' : w.outcomes with _ | ⟨o, rest⟩
  · rw [upcoming, hw'] at h
    cases h
    exact Failure.isForeign_of rfl
  · rw [upcoming, hw'] at h
    cases h
    exact hw failure (hw' ▸ List.mem_cons_self)

/-! ## Authorizations -/

namespace Authentication

open Account.KeyFlow (Call Answer Course delivered)

/-- What is sent for an authorization: nothing, or a request for a token. -/
def SendsToken (sent : List Event) : Prop :=
  sent = [] ∨ ∃ url assertion timeout, sent = [.tokenRequest url assertion timeout]

/-- No request for a token is a request to the API. -/
theorem SendsToken.request_notMem {sent : List Event} (h : SendsToken sent) (r : Request) :
    Event.request r ∉ sent := by
  rcases h with rfl | ⟨url, assertion, timeout, rfl⟩
  · exact List.not_mem_nil
  · simp

/-- A request for a token gets the first of the outcomes. -/
theorem SendsToken.upcoming_of_mem_zip {w : World} {sent : List Event} (h : SendsToken sent)
    {event : Event} {o : Outcome} (hmem : (event, o) ∈ sent.zip w.outcomes) :
    sent ≠ [] ∧ Action.upcoming w = o := by
  rcases h with rfl | ⟨url, assertion, timeout, rfl⟩
  · cases hmem
  · refine ⟨List.cons_ne_nil _ _, Action.upcoming_of_head? ?_⟩
    cases hw : w.outcomes with
    | nil => simp [hw] at hmem
    | cons first rest =>
      simp only [hw, List.zip_cons_cons, List.zip_nil_left, List.mem_singleton] at hmem
      cases hmem
      rfl

/-- What an authorization comes to in a world, and what is sent for it. -/
structure Authorizes (w : World) (result : Except Failure (Option String)) (sent : List Event) :
    Prop where
  sends : SendsToken sent
  /-- A request for a token that fails on the way fails with just that failure. -/
  failed : ∀ failure, sent ≠ [] → Action.upcoming w = .failed failure → result = .error failure
  /-- All other failures are foreign. -/
  raised : ∀ failure, result = .error failure →
    Action.upcoming w = .failed failure ∨ failure.IsForeign

/-- There is no other reason for an assertion to be missing than a number or the key. -/
theorem isForeign_of_signed {k : Account.KeyFlow} {clock : Value.Numeric} {drawn : Nat}
    {failure : Failure} (h : k.signed clock drawn = .error failure) : failure.IsForeign := by
  unfold Account.KeyFlow.signed at h
  split at h
  · next htruncate =>
    cases h
    exact Failure.isForeign_of
      (Fault.isApi_of_isNumeric (Account.KeyFlow.isNumeric_of_truncate htruncate))
  · split at h <;> cases h
    exact Failure.isForeign_of rfl

/-- Whatever the endpoint responds, a response without a token is no API error, not even if its
status says that something does not exist. -/
theorem isForeign_of_delivered {o : Outcome} {failure : Failure}
    (h : delivered o = .error failure) : o = .failed failure ∨ failure.IsForeign := by
  cases o with
  | failed f =>
    cases h
    exact .inl rfl
  | response status reason body =>
    refine .inr ?_
    simp only [delivered] at h
    split at h
    · cases h
      exact Failure.isForeign_of rfl
    · split at h
      · cases h
        exact Failure.isForeign_of rfl
      · cases h
        exact Failure.isForeign_raisedFrom_of rfl rfl
      · split at h
        · split at h
          · cases h
            exact Failure.isForeign_of rfl
          · cases h
        · cases h
          exact Failure.isForeign_of rfl

/-- A request for a token that fails on the way delivers nothing. -/
theorem delivered_of_upcoming {w : World} {failure : Failure}
    (h : Action.upcoming w = .failed failure) :
    delivered (Call.ofWorld w).outcome = .error failure := by
  change delivered (Action.upcoming w) = .error failure
  rw [h]
  rfl

/-- What a call for a token comes to authorizes a request. -/
theorem authorizes_of_course {k : Account.KeyFlow} {w : World} {a : Answer} {cache : TokenCache}
    (h : Course k w.cache (.ofWorld w) a cache) :
    Authorizes w (a.result.map fun token => some ("Bearer " ++ token.text)) a.sent := by
  cases h with
  | held _ => exact ⟨.inl rfl, fun _ h => absurd rfl h, nofun⟩
  | unsigned _ hsigned =>
    refine ⟨.inl rfl, fun _ h => absurd rfl h, ?_⟩
    rintro _ ⟨⟩
    exact .inr (isForeign_of_signed hsigned)
  | refused _ _ hdelivered =>
    refine ⟨.inr ⟨_, _, _, rfl⟩, fun failure _ hup => ?_, ?_⟩
    · cases hdelivered.symm.trans (delivered_of_upcoming hup)
      rfl
    · rintro _ ⟨⟩
      exact isForeign_of_delivered hdelivered
  | unbounded _ _ hdelivered hexpiry =>
    refine ⟨.inr ⟨_, _, _, rfl⟩, fun failure _ hup => ?_, ?_⟩
    · cases hdelivered.symm.trans (delivered_of_upcoming hup)
    · rintro _ ⟨⟩
      exact .inr (Failure.isForeign_of
        (Fault.isApi_of_isNumeric (Account.KeyFlow.isNumeric_of_expiry hexpiry)))
  | renewed _ _ hdelivered _ =>
    refine ⟨.inr ⟨_, _, _, rfl⟩, fun failure _ hup => ?_, nofun⟩
    cases hdelivered.symm.trans (delivered_of_upcoming hup)

/-- An authorization uses up one outcome for each request that it sends. -/
theorem authorization_spec (a : Authentication) (w : World) :
    ∃ result sent n cache, Authorizes w result sent ∧
      a.authorization.run w =
        (result, { w with
          drawn := n
          outcomes := w.outcomes.drop sent.length
          cache := cache
          log := w.log ++ sent }) := by
  have hnone (text : Option String) : Authorizes w (.ok text) [] :=
    ⟨.inl rfl, fun _ h => absurd rfl h, nofun⟩
  cases a with
  | none => exact ⟨.ok Option.none, [], w.drawn, w.cache, hnone Option.none, by simp [authorization]⟩
  | fixed text =>
    exact ⟨.ok (some text), [], w.drawn, w.cache, hnone (some text), by simp [authorization]⟩
  | keyFlow flow =>
    obtain ⟨n, hn⟩ := Account.KeyFlow.run_accessToken flow w
    have hcourse := Account.KeyFlow.course_spec flow w.cache (.ofWorld w)
    refine ⟨_, _, n, (flow.course w.cache (.ofWorld w)).2, authorizes_of_course hcourse, ?_⟩
    simp only [authorization, Account.KeyFlow.authorization, Action.run_bind, hn]
    rcases (flow.course w.cache (.ofWorld w)).1.result with failure | token <;> rfl

end Authentication

/-! ## Requests -/

namespace Handle

open Authentication (SendsToken)

variable (h : Handle) (method path : String) (params : Option (Entries Value))
  (payload : Option Value)

/-- The request that a handle sends under an authorization. -/
def request (authorization : Option String) : Request where
  method := method
  url := h.endpoint ++ "/" ++ path
  params := params
  payload := payload
  verify := h.verify
  timeout := h.timeout
  authorization := authorization

/-- Once it is authorized, a request is sent, and its outcome decides. -/
theorem run_send_of_authorized {authorization : Option String} {w w' : World}
    (hrun : h.authentication.authorization.run w = (.ok authorization, w')) :
    (h.send method path params payload).run w =
      (content (Action.upcoming w'), { w' with
        outcomes := w'.outcomes.tail
        log := w'.log ++ [.request (h.request method path params payload authorization)] }) := by
  rw [send, Action.run_bind_ok hrun]
  simp only [Action.run_bind, Action.run_note, Action.run_nextOutcome]
  have hup : Action.upcoming { w' with
      log := w'.log ++ [.request (h.request method path params payload authorization)] } =
    Action.upcoming w' := rfl
  rw [request] at hup ⊢
  rw [hup]
  cases content (Action.upcoming w') <;> rfl

/-- The ways in which sending a request can go. -/
inductive Sending (w : World) : Except Failure Value × World → Prop
  /-- There is no authorization, and no more is sent than a request for a token. -/
  | unauthorized {failure : Failure} {w' : World} {sent : List Event} (hsent : SendsToken sent)
      (hlog : w'.log = w.log ++ sent) (houtcomes : w'.outcomes = w.outcomes.drop sent.length)
      (hfailed : ∀ f, sent ≠ [] → Action.upcoming w = .failed f → failure = f)
      (hraised : Action.upcoming w = .failed failure ∨ failure.IsForeign) :
      Sending w (.error failure, w')
  /-- The request is sent, and its outcome decides. -/
  | answered {authorization : Option String} {w' : World} {sent : List Event} {outcome : Outcome}
      (hsent : SendsToken sent)
      (hlog : w'.log =
        w.log ++ sent ++ [.request (h.request method path params payload authorization)])
      (houtcomes : w'.outcomes = w.outcomes.drop (sent.length + 1))
      (hdelivered : ∀ f, sent ≠ [] → Action.upcoming w ≠ .failed f)
      (houtcome : outcome = Action.upcoming { w with outcomes := w.outcomes.drop sent.length }) :
      Sending w (content outcome, w')

/-- Sending a request goes one of these ways. -/
theorem send_spec (w : World) :
    Sending h method path params payload w ((h.send method path params payload).run w) := by
  obtain ⟨result, sent, n, cache, ⟨hsends, hfailed, hraised⟩, hrun⟩ :=
    Authentication.authorization_spec h.authentication w
  cases result with
  | error failure =>
    have hsend : (h.send method path params payload).run w = (.error failure, _) :=
      Action.run_bind_error hrun
    rw [hsend]
    refine .unauthorized hsends rfl rfl (fun f hne hup => ?_) (hraised failure rfl)
    cases hfailed f hne hup
    rfl
  | ok authorization =>
    rw [run_send_of_authorized h method path params payload hrun]
    refine .answered hsends rfl ?_ (fun f hne hup => nomatch hfailed f hne hup) rfl
    exact List.tail_drop

/-! ## Answers and failures -/

variable {h method path params payload} {w w' : World} {result : Except Failure Value}

/-- What an outcome gives that is not a success: its own failure, the API error that the response
makes, or a failure to read its body. -/
theorem content_eq_error {o : Outcome} {failure : Failure} (ho : content o = .error failure) :
    o = .failed failure ∨ failure.IsForeign ∨ ∃ status reason body,
      o = .response status reason body ∧ failure = .of (.api false (.int status) reason body) := by
  cases o with
  | failed f =>
    cases ho
    exact .inl rfl
  | response status reason body =>
    simp only [content, Http.content] at ho
    split at ho
    · cases ho
      exact .inr (.inr ⟨status, reason, body, rfl, rfl⟩)
    · split at ho
      · cases ho
      · split at ho <;> cases ho
        exact .inr (.inl (Failure.isForeign_of rfl))

/-- A response to the request itself decides what sending it comes to. -/
theorem Sending.of_response (hsending : Sending h method path params payload w (result, w'))
    {r : Request} {status : Int} {reason : String} {body : Bytes}
    (hmem : (.request r, .response status reason body) ∈ w.dialogue w') :
    result = Http.content status reason body := by
  cases hsending with
  | unauthorized hsent hlog _ _ _ =>
    rw [World.dialogue_of_append hlog] at hmem
    exact absurd (List.of_mem_zip hmem).1 (hsent.request_notMem r)
  | answered hsent hlog _ _ houtcome =>
    rw [World.dialogue_of_append (hlog.trans (List.append_assoc _ _ _)), mem_zip_concat] at hmem
    rcases hmem with hmem | ⟨-, hhead⟩
    · exact absurd (List.of_mem_zip hmem).1 (hsent.request_notMem r)
    · rw [houtcome, Action.upcoming_of_head? hhead]
      rfl

/-- A failure to get a response, to whichever request, is what sending comes to. -/
theorem Sending.of_failed (hsending : Sending h method path params payload w (result, w'))
    {event : Event} {failure : Failure} (hmem : (event, .failed failure) ∈ w.dialogue w') :
    result = .error failure := by
  cases hsending with
  | unauthorized hsent hlog _ hfailed _ =>
    rw [World.dialogue_of_append hlog] at hmem
    obtain ⟨hne, hup⟩ := hsent.upcoming_of_mem_zip hmem
    exact congrArg Except.error (hfailed failure hne hup)
  | answered hsent hlog _ hdelivered houtcome =>
    rw [World.dialogue_of_append (hlog.trans (List.append_assoc _ _ _)), mem_zip_concat] at hmem
    rcases hmem with hmem | ⟨-, hhead⟩
    · obtain ⟨hne, hup⟩ := hsent.upcoming_of_mem_zip hmem
      exact absurd hup (hdelivered failure hne)
    · rw [houtcome, Action.upcoming_of_head? hhead]
      rfl

/-- Sending a request fails with a foreign failure, or with the API error that the response to the
request itself makes. -/
theorem Sending.eq_error (hw : ∀ f, .failed f ∈ w.outcomes → f.IsForeign) {failure : Failure}
    (hsending : Sending h method path params payload w (.error failure, w')) :
    failure.IsForeign ∨ ∃ authorization status reason body,
      (.request (h.request method path params payload authorization),
        .response status reason body) ∈ w.dialogue w' ∧
      failure = .of (.api false (.int status) reason body) := by
  generalize hresult : Except.error failure = result at hsending
  cases hsending with
  | unauthorized _ _ _ _ hraised =>
    cases hresult
    exact .inl (hraised.elim (Action.isForeign_upcoming hw) id)
  | @answered authorization _ sent outcome _ hlog _ _ houtcome =>
    rcases content_eq_error hresult.symm with ho | hforeign | ⟨status, reason, body, ho, hfailure⟩
    · have hdrop : ∀ f, .failed f ∈ w.outcomes.drop sent.length → f.IsForeign :=
        fun f hf => hw f (List.mem_of_mem_drop hf)
      exact .inl (Action.isForeign_upcoming hdrop (houtcome.symm.trans ho))
    · exact .inl hforeign
    · refine .inr ⟨authorization, status, reason, body, ?_, hfailure⟩
      rw [World.dialogue_of_append (hlog.trans (List.append_assoc _ _ _)), mem_zip_concat]
      exact .inr ⟨rfl, Action.head?_of_upcoming (houtcome.symm.trans ho)⟩

end Handle

end MachineCloud
