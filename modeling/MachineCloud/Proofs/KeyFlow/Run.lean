import MachineCloud.Proofs.Json.Printing
import MachineCloud.Proofs.KeyFlow.Exchange

/-!
# Runs of calls

A run makes calls for a token one after the other.  The clock may move either way between two calls,
and the endpoint may answer anything; all that a call hands on to the next one is the cache.

The history of a run is the list of the exchanges that succeeded in it.  `Remembers` is the invariant
between the cache and the latest of them.  Every call keeps it whose answer, if it delivers a token,
also has a lifetime that leads to a time of expiry (`remembers_step`).

At the end stand two flows and an answer to show the results on.
-/

namespace MachineCloud.Account.KeyFlow

open Value (Numeric)

/-! ## Steps and runs -/

/-- The world in which a call is made. -/
def Call.enter (c : Call) (w : World) : World :=
  { w with clock := c.clock, drawn := c.drawn, outcomes := [c.outcome] }

/-- Makes a call. -/
def step (k : KeyFlow) (w : World) (c : Call) : Answer × World :=
  let (result, w') := k.accessToken.run (c.enter w)
  (⟨result, w'.log.drop w.log.length⟩, w')

/-- The world after some calls. -/
def after (k : KeyFlow) (w : World) (calls : List Call) : World :=
  calls.foldl (fun w c => (k.step w c).2) w

/-- What the calls of a run come to. -/
def answers (k : KeyFlow) (w : World) : List Call → List Answer
  | [] => []
  | c :: rest => (k.step w c).1 :: answers k (k.step w c).2 rest

/-- A call in a run follows `course`. -/
theorem step_eq_course (k : KeyFlow) (w : World) (c : Call) :
    (k.step w c).1 = (k.course w.cache c).1 ∧ (k.step w c).2.cache = (k.course w.cache c).2 := by
  obtain ⟨n, hn⟩ := run_accessToken k (c.enter w)
  have hc : Call.ofWorld (c.enter w) = c := rfl
  have hcache : (c.enter w).cache = w.cache := rfl
  have hlog : (c.enter w).log = w.log := rfl
  rw [hc, hcache, hlog] at hn
  simp [step, hn]

/-- A call in a run goes one of the ways of `Course`. -/
theorem step_spec (k : KeyFlow) (w : World) (c : Call) :
    Course k w.cache c (k.step w c).1 (k.step w c).2.cache := by
  rw [(step_eq_course k w c).1, (step_eq_course k w c).2]
  exact course_spec k w.cache c

/-- Whether a call that needs a token asks for one: its clock has a whole part, and the key can
sign. -/
def Asks (k : KeyFlow) (c : Call) : Prop := (∃ now, c.clock.truncate = .ok now) ∧ k.CanSign

/-- A call sends a request exactly if it needs a token and asks for one. -/
theorem sent_ne_nil_iff {k : KeyFlow} {w : World} {c : Call} :
    (k.step w c).1.sent ≠ [] ↔ isFresh c.clock w.cache = false ∧ Asks k c := by
  have hspec := step_spec k w c
  rw [Asks, ← signed_eq_ok_iff k c.clock c.drawn]
  generalize (k.step w c).1 = a, (k.step w c).2.cache = cache' at hspec ⊢
  cases hspec with
  | held hfresh => exact iff_of_false (fun h => h rfl) fun h => by simp [hfresh] at h
  | unsigned _ hsigned => exact iff_of_false (fun h => h rfl) fun h => by simp [hsigned] at h
  | refused hfresh hsigned _ => exact iff_of_true (List.cons_ne_nil _ _) ⟨hfresh, _, hsigned⟩
  | unbounded hfresh hsigned _ _ => exact iff_of_true (List.cons_ne_nil _ _) ⟨hfresh, _, hsigned⟩
  | renewed hfresh hsigned _ _ => exact iff_of_true (List.cons_ne_nil _ _) ⟨hfresh, _, hsigned⟩

/-- Runs from worlds that hold the same token come to the same. -/
theorem answers_congr (k : KeyFlow) {w w' : World} (h : w.cache = w'.cache) (calls : List Call) :
    answers k w calls = answers k w' calls := by
  induction calls generalizing w w' with
  | nil => rfl
  | cons c rest ih =>
    have hstep : (k.step w c).1 = (k.step w' c).1 := by
      rw [(step_eq_course k w c).1, (step_eq_course k w' c).1, h]
    have hcache : (k.step w c).2.cache = (k.step w' c).2.cache := by
      rw [(step_eq_course k w c).2, (step_eq_course k w' c).2, h]
    rw [answers, answers, hstep, ih hcache]

/-! ## History -/

/-- An exchange that succeeded: when the answer came, and the token and the lifetime in it. -/
structure Exchange where
  time : Numeric
  token : Value
  lifetime : Value

/-- The exchange in a call, if it sent a request and came to a token. -/
def exchange? (c : Call) (a : Answer) : Option Exchange :=
  match a.sent, a.result, delivered c.outcome with
  | _ :: _, .ok _, .ok (token, lifetime) => some ⟨c.clock, token, lifetime⟩
  | _, _, _ => none

/-- The exchanges that succeeded in a run, oldest first. -/
def exchanges (k : KeyFlow) (w : World) : List Call → List Exchange
  | [] => []
  | c :: rest => (exchange? c (k.step w c).1).toList ++ exchanges k (k.step w c).2 rest

/-- The latest exchange that succeeded in a run. -/
def latest? (k : KeyFlow) (w : World) (calls : List Call) : Option Exchange :=
  (exchanges k w calls).getLast?

/-- The exchanges of a run in two parts. -/
theorem exchanges_append (k : KeyFlow) (w : World) (calls more : List Call) :
    exchanges k w (calls ++ more) = exchanges k w calls ++ exchanges k (after k w calls) more := by
  induction calls generalizing w with
  | nil => rfl
  | cons c rest ih =>
    rw [List.cons_append, exchanges, ih, exchanges, List.append_assoc]
    rfl

/-- One more call either brings the latest exchange or leaves it. -/
theorem latest?_concat (k : KeyFlow) (w : World) (calls : List Call) (c : Call) :
    latest? k w (calls ++ [c]) =
      (exchange? c (k.step (after k w calls) c).1).or (latest? k w calls) := by
  rw [latest?, exchanges_append, List.getLast?_append]
  congr 1
  simp only [exchanges, List.append_nil]
  cases exchange? c (k.step (after k w calls) c).1 <;> rfl

/-- The world after one more call. -/
theorem after_concat (k : KeyFlow) (w : World) (calls : List Call) (c : Call) :
    after k w (calls ++ [c]) = (k.step (after k w calls) c).2 := by
  rw [after, List.foldl_append]
  rfl

/-- An exchange is made of the clock and the answer of its call. -/
theorem exchange?_eq_some {c : Call} {a : Answer} {x : Exchange} (h : exchange? c a = some x) :
    delivered c.outcome = .ok (x.token, x.lifetime) ∧ x.time = c.clock ∧ a.sent ≠ [] := by
  unfold exchange? at h
  split at h
  · next hsent _ hdelivered =>
    cases h
    refine ⟨hdelivered, rfl, ?_⟩
    rw [hsent]
    exact List.cons_ne_nil _ _
  · cases h

/-- Only a key that can sign ever exchanges a token. -/
theorem canSign_of_mem_exchanges {k : KeyFlow} {w : World} {calls : List Call} {x : Exchange}
    (h : x ∈ exchanges k w calls) : k.CanSign := by
  induction calls generalizing w with
  | nil => cases h
  | cons c rest ih =>
    rcases List.mem_append.mp h with hnew | hrest
    · exact (sent_ne_nil_iff.mp (exchange?_eq_some (Option.mem_toList.mp hnew)).2.2).2.2
    · exact ih hrest

/-- The cache holds what the latest exchange brought, and without an exchange no token at all. -/
def Remembers (cache : TokenCache) : Option Exchange → Prop
  | none => cache.token.isTruthy = false
  | some x => x.token.isTruthy = true ∧ cache.token = x.token ∧
      expiry x.time x.lifetime = .ok cache.expiresAt

/-- Whether a token that the answer to a call delivers always has a time of expiry. -/
def Call.IsBounded (c : Call) : Prop :=
  ∀ token lifetime, delivered c.outcome = .ok (token, lifetime) →
    ∃ expiresAt, expiry c.clock lifetime = .ok expiresAt

/-- No bounded call breaks off between the token and its lifetime. -/
theorem Call.IsBounded.expiry_ne_error {c : Call} (hc : c.IsBounded) {token lifetime : Value}
    (h : delivered c.outcome = .ok (token, lifetime)) (fault : Fault) :
    expiry c.clock lifetime ≠ .error fault := by
  obtain ⟨expiresAt, hok⟩ := hc token lifetime h
  rw [hok]
  intro h
  cases h

/-- A bounded call remembers. -/
theorem remembers_step {k : KeyFlow} {w : World} {x? : Option Exchange} (hw : Remembers w.cache x?)
    {c : Call} (hc : c.IsBounded) :
    Remembers (k.step w c).2.cache ((exchange? c (k.step w c).1).or x?) := by
  have hspec := step_spec k w c
  generalize (k.step w c).1 = a, (k.step w c).2.cache = cache' at hspec ⊢
  cases hspec with
  | held _ => exact hw
  | unsigned _ _ => exact hw
  | refused _ _ _ => exact hw
  | unbounded _ _ hdelivered hexpiry => exact absurd hexpiry (hc.expiry_ne_error hdelivered _)
  | renewed _ _ hdelivered hexpiry =>
    simp only [exchange?, hdelivered, Option.some_or]
    exact ⟨isTruthy_of_delivered hdelivered, rfl, hexpiry⟩

/-- A bounded call that fails leaves the cache alone. -/
theorem cache_of_failure {k : KeyFlow} {w : World} {c : Call} (hc : c.IsBounded)
    {failure : Failure} (h : (k.step w c).1.result = .error failure) :
    (k.step w c).2.cache = w.cache := by
  have hspec := step_spec k w c
  generalize (k.step w c).1 = a, (k.step w c).2.cache = cache' at hspec h ⊢
  cases hspec with
  | held _ => rfl
  | unsigned _ _ => rfl
  | refused _ _ _ => rfl
  | unbounded _ _ hdelivered hexpiry => exact absurd hexpiry (hc.expiry_ne_error hdelivered _)
  | renewed _ _ _ _ => cases h

/-! ## Flows and answers to show it on -/

/-- A response of the endpoint with an object as its body, in the compact form. -/
def answering (members : Entries Value) : Outcome :=
  .response 200 "OK" (Utf8.encodeChars (Json.compact (.map members)))

/-- Such a response delivers the token in the object, if there is one and the body is taken for UTF-8. -/
theorem delivered_answering {members : Entries Value} (hexact : (Value.map members).IsExact)
    (hdepth : (Value.map members).depth ≤ Json.maxDepth)
    (htext : Http.bodyText (Utf8.encodeChars (Json.compact (.map members))) =
      String.ofList (Json.compact (.map members)))
    (htoken : (member members "access_token").isTruthy = true) :
    delivered (answering members) =
      .ok (member members "access_token", member members "expires_in") := by
  have hbody : Http.bodyValue (Utf8.encodeChars (Json.compact (.map members))) = .ok (.map members) := by
    rw [Http.bodyValue, htext]
    exact Json.read_compact hexact hdepth
  have hok : Http.isOk 200 = true := rfl
  simp [answering, delivered, hok, hbody, htoken]

/-- A flow with a signer. -/
def flowOf (signer : Rsa.PrivateKey) : KeyFlow where
  key := ⟨"k1", "PUB", none, none, none, ⟨"kid-1", "i@sa", "s-1", "https://aud.test", ""⟩⟩
  signer := signer
  tokenEndpoint := "https://token.test/token"

/-- A flow with an RSA key of 1128 bits.  Its primes are two of Mersenne's, and its exponents undo
each other since both are one less than the order. -/
def longFlow : KeyFlow :=
  let p := Nat.pow 2 521 - 1
  let q := Nat.pow 2 607 - 1
  let order := Nat.lcm (p - 1) (q - 1)
  flowOf {
    modulus := p * q
    publicExponent := order - 1
    privateExponent := order - 1
    prime1 := p
    prime2 := q
    exponent1 := p - 2
    exponent2 := q - 2
    coefficient := powMod q (p - 2) p }

/-- A flow with an RSA key of 256 bits: a proper key, but too short for a padded SHA-512 hash. -/
def shortFlow : KeyFlow := flowOf {
  modulus := 77545479140731696204346112781490384479437745061172587274138354935445709936471
  publicExponent := 65537
  privateExponent := 3940294210949318988494128585843871592834808309961941467418417302800259499601
  prime1 := 283910936661938661025579630583592723679
  prime2 := 273133117210864770337848443476595827849
  exponent1 := 163002835249992614834513095807999197611
  exponent2 := 171201539922564565065664833751546149689
  coefficient := 116707236389692180068378039414012334527 }

end MachineCloud.Account.KeyFlow
