import MachineCloud.Account.KeyFlow

/-!
# One call for a token

What a single call of `KeyFlow.accessToken` can come to.  The action reads the clock, draws an
identifier, sends at most one request and touches the cache in two steps; `course` says the same
thing as one function of the cache and of the surroundings of the call, and `Course` lists the five
ways through it.  Everything about runs, lifetimes and failures is derived from these.

* `run_accessToken`: the action follows `course`, and changes nothing else in the world.
* `course_spec`: the five ways, each with its guards, its answer and the cache it leaves.
-/

namespace MachineCloud

namespace Fault

/-- Whether it is the exchange of a token that failed. -/
def isToken : Fault → Bool
  | .token .. => true
  | _ => false

/-- Whether a number is at fault, or something that should have been one. -/
def isNumeric : Fault → Bool
  | .value _ | .misfit _ | .range _ => true
  | _ => false

/-- A fault in a number is no failure of an exchange. -/
theorem isToken_of_isNumeric {fault : Fault} (h : fault.isNumeric = true) :
    fault.isToken = false := by
  cases fault with
  | token _ _ _ => cases h
  | _ => rfl

/-- A fault in a number does not come from the API. -/
theorem isApi_of_isNumeric {fault : Fault} (h : fault.isNumeric = true) : fault.isApi = false := by
  cases fault with
  | api _ _ _ _ => cases h
  | _ => rfl

end Fault

namespace Account.KeyFlow

/-! ## Numbers that do not go through -/

/-- What keeps a clock from having a whole part is a fault in a number. -/
theorem isNumeric_of_truncate {now : Value.Numeric} {fault : Fault}
    (h : now.truncate = .error fault) : fault.isNumeric = true := by
  unfold Value.Numeric.truncate at h
  split at h
  · cases h
  · cases h
    rfl
  · split at h
    · cases h
    · cases h
      rfl

/-- What keeps a lifetime from leading to a time of expiry is a fault in a number. -/
theorem isNumeric_of_expiry {now : Value.Numeric} {lifetime : Value} {fault : Fault}
    (h : expiry now lifetime = .error fault) : fault.isNumeric = true := by
  have hnumeric : ∀ {x : Value.Numeric}, x.toBinary64 = .error fault → fault.isNumeric = true := by
    intro x hx
    cases x with
    | int n =>
      simp only [Value.Numeric.toBinary64] at hx
      split at hx <;> cases hx
      rfl
    | float x => cases hx
  have hvalue : ∀ {v : Value}, v.toBinary64 = .error fault → fault.isNumeric = true := by
    intro v hv
    unfold Value.toBinary64 at hv
    split at hv
    · split at hv <;> cases hv
      rfl
    · split at hv
      · exact hnumeric hv
      · cases hv
        rfl
  unfold expiry at h
  rcases hl : (lifetime.orElse (.int defaultTokenLifetime)).toBinary64 with e | x
  · rw [hl] at h
    cases h
    exact hvalue hl
  · rcases ht : now.toBinary64 with e | y
    · rw [hl, ht] at h
      cases h
      exact hnumeric ht
    · rw [hl, ht] at h
      cases h

/-! ## Answers of the endpoint -/

/-- The token in an answer of the endpoint with the lifetime that comes with it, or the failure that
an answer without a token comes to. -/
def delivered : Outcome → Except Failure (Value × Value)
  | .failed failure => .error failure
  | .response status reason body =>
    let refuse (why : String) : Fault := .token (.int status) why body
    if !Http.isOk status then .error (.of (refuse reason))
    else match Http.bodyValue body with
      | .error (.tooDeep what) => .error (.of (.json (.tooDeep what)))
      | .error fault =>
        .error (.raisedFrom (refuse "token response is not JSON") (.of (.json fault)))
      | .ok data =>
        let members : Entries Value := match data with
          | .map m => m
          | _ => []
        let token := member members "access_token"
        if !token.isTruthy then .error (.of (refuse "token response has no access_token"))
        else .ok (token, member members "expires_in")

/-- How an exchange ends that got an answer, and what it leaves in the cache. -/
def settle (now : Value.Numeric) (cache : TokenCache) (o : Outcome) :
    Except Failure Unit × TokenCache :=
  match delivered o with
  | .error failure => (.error failure, cache)
  | .ok (token, lifetime) =>
    match expiry now lifetime with
    | .error fault => (.error (.of fault), { cache with token := token })
    | .ok expiresAt => (.ok (), ⟨token, expiresAt⟩)

/-- A token that is delivered counts as present. -/
theorem isTruthy_of_delivered {o : Outcome} {token lifetime : Value}
    (h : delivered o = .ok (token, lifetime)) : token.isTruthy = true := by
  cases o with
  | failed failure => cases h
  | response status reason body =>
    simp only [delivered] at h
    split at h
    · cases h
    · split at h
      · cases h
      · cases h
      · split at h
        · split at h
          · cases h
          · next htruthy =>
            cases h
            simpa using htruthy
        · simp [member, Entries.get?, Value.isTruthy] at h

/-- Taking the token out of a response settles the exchange. -/
theorem run_receive (status : Int) (reason : String) (body : Bytes) (w : World) :
    (receive status reason body).run w =
      ((settle w.clock w.cache (.response status reason body)).1,
        { w with cache := (settle w.clock w.cache (.response status reason body)).2 }) := by
  simp only [receive, settle, delivered]
  cases hok : Http.isOk status with
  | false => simp [Action.run_bind]
  | true =>
    rcases hbody : Http.bodyValue body with (_ | _ | _) | data
    · simp
    · simp
    · simp
    · cases data with
      | map m =>
        cases htoken : (member m "access_token").isTruthy with
        | false => simp [Action.run_bind, htoken]
        | true =>
          rcases hx : expiry w.clock (member m "expires_in") with fault | x
          · simp [Action.run_bind, holdToken, htoken, hx]
          · simp [Action.run_bind, holdToken, holdUntil, htoken, hx]
      | _ => simp [Action.run_bind, member, Entries.get?, Value.isTruthy]

/-! ## Assertions -/

/-- The assertion of a call, or why there is none: the clock has no whole part, or the key is too
short to sign. -/
def signed (k : KeyFlow) (clock : Value.Numeric) (drawn : Nat) : Except Failure Assertion :=
  match clock.truncate with
  | .error fault => .error (.of fault)
  | .ok now =>
    match Assertion.build k.key.credentials (Rsa.sign? k.signer) (Action.identifier (drawn + 1))
      now with
    | some assertion => .ok assertion
    | none => .error (.of (.value .keyTooShort))

/-- Whether the key is long enough to sign: the padded hash of an assertion takes 94 bytes. -/
def CanSign (k : KeyFlow) : Prop := 94 ≤ Octets.width k.signer.modulus

instance instDecidableCanSign (k : KeyFlow) : Decidable k.CanSign :=
  inferInstanceAs (Decidable (94 ≤ Octets.width k.signer.modulus))

/-- A named hash takes 83 bytes. -/
theorem length_namedHash (message : Bytes) : (Rsa.namedHash message).length = 83 := by
  simp [Rsa.namedHash, Rsa.hashName, Sha512.hash, Octets.length_ofNat]

/-- Only the length of the key decides whether it signs, not the message. -/
theorem sign?_isSome_iff (k : KeyFlow) (message : Bytes) :
    (Rsa.sign? k.signer message).isSome = true ↔ k.CanSign := by
  simp only [Rsa.sign?, Option.isSome_map, Rsa.padded?, length_namedHash, CanSign]
  split
  · next h => exact iff_of_false Bool.false_ne_true (Nat.not_le.mpr h)
  · next h => exact iff_of_true rfl (Nat.not_lt.mp h)

/-- There is an assertion whenever the clock has a whole part and the key is long enough. -/
theorem signed_eq_ok_iff (k : KeyFlow) (clock : Value.Numeric) (drawn : Nat) :
    (∃ assertion, k.signed clock drawn = .ok assertion) ↔
      (∃ now, clock.truncate = .ok now) ∧ k.CanSign := by
  simp only [signed]
  rcases clock.truncate with fault | now
  · simp
  · have h := sign?_isSome_iff k (Utf8.encodeChars
      (Assertion.signingInput k.key.credentials (Action.identifier (drawn + 1)) now))
    simp only [Assertion.build]
    cases hs : Rsa.sign? k.signer (Utf8.encodeChars
      (Assertion.signingInput k.key.credentials (Action.identifier (drawn + 1)) now)) with
    | none => simpa [hs] using h
    | some signature => simpa [hs] using h

/-- Building an assertion draws at most one identifier. -/
theorem run_buildAssertion (k : KeyFlow) (w : World) :
    ∃ n, k.buildAssertion.run w = (k.signed w.clock w.drawn, { w with drawn := n }) := by
  simp only [buildAssertion, signed]
  rcases ht : w.clock.truncate with fault | now
  · exact ⟨w.drawn, by simp [Action.run_bind, ht]⟩
  · refine ⟨w.drawn + 1, ?_⟩
    rcases hb : Assertion.build k.key.credentials (Rsa.sign? k.signer)
      (Action.identifier (w.drawn + 1)) now with _ | assertion
    · simp [Action.run_bind, ht, hb]
    · simp [Action.run_bind, ht, hb]

/-! ## Calls -/

/-- The surroundings of a call: the clock, how many identifiers were drawn before, and what the
endpoint is going to answer, which plays no part if it is not asked. -/
structure Call where
  clock : Value.Numeric
  drawn : Nat
  outcome : Outcome

/-- What a call came to, and what it sent. -/
structure Answer where
  result : Except Failure Value
  sent : List Event

/-- What a call comes to with a cache, and the cache that it leaves. -/
def course (k : KeyFlow) (cache : TokenCache) (c : Call) : Answer × TokenCache :=
  if isFresh c.clock cache then (⟨.ok cache.token, []⟩, cache)
  else match k.signed c.clock c.drawn with
    | .error failure => (⟨.error failure, []⟩, cache)
    | .ok assertion =>
      let settled := settle c.clock cache c.outcome
      (⟨settled.1.map fun _ => settled.2.token,
        [.tokenRequest k.tokenEndpoint assertion k.timeout]⟩, settled.2)

/-- What a world is to a call that is made in it. -/
def Call.ofWorld (w : World) : Call := ⟨w.clock, w.drawn, Action.upcoming w⟩

/-- Asking for a token settles the exchange once there is an assertion. -/
theorem run_refresh (k : KeyFlow) (w : World) :
    ∃ n, k.refresh.run w = match k.signed w.clock w.drawn with
      | .error failure => (.error failure, { w with drawn := n })
      | .ok assertion =>
        ((settle w.clock w.cache (Action.upcoming w)).1,
          { w with
            drawn := n
            outcomes := w.outcomes.drop 1
            cache := (settle w.clock w.cache (Action.upcoming w)).2
            log := w.log ++ [.tokenRequest k.tokenEndpoint assertion k.timeout] }) := by
  obtain ⟨n, hn⟩ := run_buildAssertion k w
  refine ⟨n, ?_⟩
  rw [refresh, Action.run_bind, hn]
  rcases k.signed w.clock w.drawn with failure | assertion
  · rfl
  · simp only [Action.run_bind, Action.run_note, Action.run_nextOutcome]
    have hup : Action.upcoming
        { w with
          drawn := n, log := w.log ++ [.tokenRequest k.tokenEndpoint assertion k.timeout] } =
        Action.upcoming w := rfl
    rw [hup]
    cases Action.upcoming w with
    | failed failure => simp [settle, delivered]
    | response status reason body => simp [run_receive]

/-- A call follows `course`, and besides what `course` tells it uses up one outcome for a request
and draws identifiers. -/
theorem run_accessToken (k : KeyFlow) (w : World) :
    ∃ n, k.accessToken.run w =
      ((k.course w.cache (.ofWorld w)).1.result,
        { w with
          drawn := n
          outcomes := w.outcomes.drop (k.course w.cache (.ofWorld w)).1.sent.length
          cache := (k.course w.cache (.ofWorld w)).2
          log := w.log ++ (k.course w.cache (.ofWorld w)).1.sent }) := by
  by_cases hf : isFresh w.clock w.cache = true
  · exact ⟨w.drawn, by simp [accessToken, course, Call.ofWorld, Action.run_bind, hf]⟩
  · obtain ⟨n, hn⟩ := run_refresh k w
    refine ⟨n, ?_⟩
    rcases hs : k.signed w.clock w.drawn with failure | assertion
    · simp only [hs] at hn
      simp [accessToken, course, Call.ofWorld, Action.run_bind, hf, hs, hn]
    · simp only [hs] at hn
      rcases hx : (settle w.clock w.cache (Action.upcoming w)).1 with failure | _
      · simp [accessToken, course, Call.ofWorld, Action.run_bind, hf, hs, hn, hx, Except.map]
      · simp [accessToken, course, Call.ofWorld, Action.run_bind, Action.run_map, hf, hs, hn, hx,
          Except.map]

/-- The ways a call can go. -/
inductive Course (k : KeyFlow) (cache : TokenCache) (c : Call) : Answer → TokenCache → Prop
  /-- The token held is still good. -/
  | held (hfresh : isFresh c.clock cache = true) : Course k cache c ⟨.ok cache.token, []⟩ cache
  /-- A new token is due, and there is no assertion to ask for it with. -/
  | unsigned {failure : Failure} (hfresh : isFresh c.clock cache = false)
      (hsigned : k.signed c.clock c.drawn = .error failure) :
      Course k cache c ⟨.error failure, []⟩ cache
  /-- The endpoint gives no token. -/
  | refused {assertion : Assertion} {failure : Failure} (hfresh : isFresh c.clock cache = false)
      (hsigned : k.signed c.clock c.drawn = .ok assertion)
      (hdelivered : delivered c.outcome = .error failure) :
      Course k cache c ⟨.error failure, [.tokenRequest k.tokenEndpoint assertion k.timeout]⟩ cache
  /-- The endpoint gives a token with a lifetime that leads to no time of expiry. -/
  | unbounded {assertion : Assertion} {token lifetime : Value} {fault : Fault}
      (hfresh : isFresh c.clock cache = false)
      (hsigned : k.signed c.clock c.drawn = .ok assertion)
      (hdelivered : delivered c.outcome = .ok (token, lifetime))
      (hexpiry : expiry c.clock lifetime = .error fault) :
      Course k cache c
        ⟨.error (.of fault), [.tokenRequest k.tokenEndpoint assertion k.timeout]⟩
        { cache with token := token }
  /-- The endpoint gives a token and a time to hold it. -/
  | renewed {assertion : Assertion} {token lifetime : Value} {expiresAt : Binary64}
      (hfresh : isFresh c.clock cache = false)
      (hsigned : k.signed c.clock c.drawn = .ok assertion)
      (hdelivered : delivered c.outcome = .ok (token, lifetime))
      (hexpiry : expiry c.clock lifetime = .ok expiresAt) :
      Course k cache c ⟨.ok token, [.tokenRequest k.tokenEndpoint assertion k.timeout]⟩
        ⟨token, expiresAt⟩

/-- Every call goes one of these ways. -/
theorem course_spec (k : KeyFlow) (cache : TokenCache) (c : Call) :
    Course k cache c (k.course cache c).1 (k.course cache c).2 := by
  unfold course
  cases hf : isFresh c.clock cache with
  | true => exact .held hf
  | false =>
    rcases hs : k.signed c.clock c.drawn with failure | assertion
    · exact .unsigned hf hs
    · rcases hd : delivered c.outcome with failure | ⟨token, lifetime⟩
      · simpa [settle, hd, Except.map] using Course.refused hf hs hd
      · rcases hx : expiry c.clock lifetime with fault | expiresAt
        · simpa [settle, hd, hx, Except.map] using Course.unbounded hf hs hd hx
        · simpa [settle, hd, hx, Except.map] using Course.renewed hf hs hd hx

end Account.KeyFlow

end MachineCloud
