import MachineCloud.Proofs.KeyFlow.Expiry
import MachineCloud.Proofs.KeyFlow.Run

/-!
# How long a token is given

What the cache does with the lifetime that a token was delivered with.  After an exchange the token is
given at all clocks that lie before one bound, until there is another exchange; the calls in between
do not move the bound, whatever they come to (`endsBy_iff`).

Without rounding the bound is the lifetime less five seconds after the exchange, with one exception: a
lifetime of zero seconds counts as missing, and the token is given for the ten minutes of the default.
-/

namespace MachineCloud.Account.KeyFlow

open Value (Numeric)

/-! ## What the cache holds after an exchange -/

/-- When the token of an answer is held to expire: after its lifetime, and if that leads to no time of
expiry, when the token before it would have. -/
def heldUntil (cache : TokenCache) (now : Numeric) (lifetime : Value) : Binary64 :=
  match expiry now lifetime with
  | .ok expiresAt => expiresAt
  | .error _ => cache.expiresAt

/-- A token that was asked for and delivered is held. -/
theorem cache_of_delivered {k : KeyFlow} {w : World} {c : Call} (hsent : (k.step w c).1.sent ≠ [])
    {token lifetime : Value} (hdelivered : delivered c.outcome = .ok (token, lifetime)) :
    (k.step w c).2.cache = ⟨token, heldUntil w.cache c.clock lifetime⟩ := by
  have hspec := step_spec k w c
  generalize (k.step w c).1 = a, (k.step w c).2.cache = cache' at hspec hsent ⊢
  cases hspec with
  | held _ => exact absurd rfl hsent
  | unsigned _ _ => exact absurd rfl hsent
  | refused _ _ h => cases hdelivered.symm.trans h
  | unbounded _ _ h hexpiry =>
    cases hdelivered.symm.trans h
    rw [heldUntil, hexpiry]
  | renewed _ _ h hexpiry =>
    cases hdelivered.symm.trans h
    rw [heldUntil, hexpiry]

/-- A call in which no exchange succeeds does not move the time of expiry. -/
theorem expiresAt_step {k : KeyFlow} {w : World} {c : Call}
    (h : exchange? c (k.step w c).1 = none) :
    (k.step w c).2.cache.expiresAt = w.cache.expiresAt := by
  have hspec := step_spec k w c
  generalize (k.step w c).1 = a, (k.step w c).2.cache = cache' at hspec h ⊢
  cases hspec with
  | held _ => rfl
  | unsigned _ _ => rfl
  | refused _ _ _ => rfl
  | unbounded _ _ _ _ => rfl
  | renewed _ _ hdelivered _ => simp [exchange?, hdelivered] at h

/-- A run in which no exchange succeeds does not move the time of expiry. -/
theorem expiresAt_after {k : KeyFlow} {w : World} {calls : List Call}
    (h : exchanges k w calls = []) : (after k w calls).cache.expiresAt = w.cache.expiresAt := by
  induction calls generalizing w with
  | nil => rfl
  | cons c rest ih =>
    obtain ⟨hfirst, hrest⟩ := List.append_eq_nil_iff.mp h
    have hnone : exchange? c (k.step w c).1 = none := Option.toList_eq_nil_iff.mp hfirst
    exact (ih hrest).trans (expiresAt_step hnone)

/-- Whether the endpoint delivers no token in any of the calls. -/
def Quiet (calls : List Call) : Prop := ∀ c ∈ calls, ∀ token, delivered c.outcome ≠ .ok token

/-- A call without a delivery leaves the cache alone. -/
theorem cache_step_of_not_delivered {k : KeyFlow} {w : World} {c : Call}
    (h : ∀ token, delivered c.outcome ≠ .ok token) : (k.step w c).2.cache = w.cache := by
  have hspec := step_spec k w c
  generalize (k.step w c).1 = a, (k.step w c).2.cache = cache' at hspec ⊢
  cases hspec with
  | held _ => rfl
  | unsigned _ _ => rfl
  | refused _ _ _ => rfl
  | unbounded _ _ hdelivered _ => exact absurd hdelivered (h _)
  | renewed _ _ hdelivered _ => exact absurd hdelivered (h _)

/-- Quiet calls leave the cache alone. -/
theorem cache_after_of_quiet {k : KeyFlow} {w : World} {calls : List Call} (h : Quiet calls) :
    (after k w calls).cache = w.cache := by
  induction calls generalizing w with
  | nil => rfl
  | cons c rest ih =>
    obtain ⟨hfirst, hrest⟩ := List.forall_mem_cons.mp h
    exact (ih hrest).trans (cache_step_of_not_delivered hfirst)

/-! ## When the token held is given -/

/-- A call is answered from the cache exactly if the token there is present and its last use is still
to come. -/
theorem step_eq_held_iff {k : KeyFlow} {w : World} {c : Call} {token : Value} :
    (k.step w c).1 = ⟨.ok token, []⟩ ↔
      w.cache.token = token ∧ token.isTruthy = true ∧
        c.clock.less (lastUse w.cache.expiresAt) = true := by
  have hspec := step_spec k w c
  generalize (k.step w c).1 = a, (k.step w c).2.cache = cache' at hspec ⊢
  have hno (h : isFresh c.clock w.cache = false) : ¬ (w.cache.token = token ∧
      token.isTruthy = true ∧ c.clock.less (lastUse w.cache.expiresAt) = true) := by
    rintro ⟨rfl, hheld⟩
    rw [isFresh_iff.mpr hheld] at h
    cases h
  cases hspec with
  | held h =>
    constructor
    · intro heq
      obtain rfl : w.cache.token = token := by simpa using heq
      exact ⟨rfl, isFresh_iff.mp h⟩
    · rintro ⟨rfl, -⟩
      rfl
  | unsigned h _ => exact iff_of_false nofun (hno h)
  | refused h _ _ => exact iff_of_false nofun (hno h)
  | unbounded h _ _ _ => exact iff_of_false nofun (hno h)
  | renewed h _ _ _ => exact iff_of_false nofun (hno h)

/-- Whether the token that a call brought is given before a deadline only: a later call that gives it,
without a request and with no exchange in between, comes at a clock that has not reached the
deadline. -/
def EndsBy (k : KeyFlow) (w : World) (c : Call) (token : Value) (deadline : ℚ) : Prop :=
  ∀ (later : List Call) (d : Call), exchanges k (k.step w c).2 later = [] →
    (k.step (after k (k.step w c).2 later) d).1 = ⟨.ok token, []⟩ → ¬ d.clock.Reaches deadline

/-- A token is given before a deadline only, if no clock before its last use has reached it. -/
theorem endsBy_iff {k : KeyFlow} {w : World} {c : Call} (hsent : (k.step w c).1.sent ≠ [])
    {token lifetime : Value} (hdelivered : delivered c.outcome = .ok (token, lifetime))
    (deadline : ℚ) :
    EndsBy k w c token deadline ↔
      ∀ now : Numeric, now.less (lastUse (heldUntil w.cache c.clock lifetime)) = true →
        ¬ now.Reaches deadline := by
  have hcache := cache_of_delivered hsent hdelivered
  constructor
  · intro h now hless
    refine h [] ⟨now, 0, c.outcome⟩ rfl (step_eq_held_iff.mpr ?_)
    change (k.step w c).2.cache.token = token ∧ token.isTruthy = true ∧
      now.less (lastUse (k.step w c).2.cache.expiresAt) = true
    rw [hcache]
    exact ⟨rfl, isTruthy_of_delivered hdelivered, hless⟩
  · intro h later d hlater hd
    obtain ⟨-, -, hless⟩ := step_eq_held_iff.mp hd
    rw [expiresAt_after hlater, hcache] at hless
    exact h d.clock hless

/-! ## Lifetimes in seconds -/

/-- How many seconds the endpoint declares a token to live: as many as an integer says, and the
default if it does not say. -/
def declared : Value → ℤ
  | .int e => e
  | _ => defaultTokenLifetime

/-- The seconds that are taken are those that are declared, unless these are zero. -/
theorem IsCount.seconds_eq {lifetime : Value} (h : IsCount lifetime) (hzero : lifetime ≠ .int 0) :
    seconds lifetime = declared lifetime := by
  rcases h with rfl | ⟨e, rfl⟩
  · rfl
  · have he : e ≠ 0 := fun he => hzero (congrArg Value.int he)
    simp [seconds, declared, he]

/-- Without rounding, a clock is before the last use of a token if it lies five seconds before the
lifetime is over. -/
theorem less_lastUse_heldUntil_iff {cache : TokenCache} {now clock : Numeric} {t : ℚ}
    {lifetime : Value} (ht : clock.Denotes t) (hl : IsCount lifetime)
    (hsums : ExactSums t (seconds lifetime)) :
    now.less (lastUse (heldUntil cache clock lifetime)) = true ↔
      now.Below (t + seconds lifetime - 5) := by
  obtain ⟨x, hx, hden⟩ := expiry_denotes ht hl hsums
  rw [heldUntil, hx]
  exact less_lastUse_iff hden hsums.lastUse

/-- The token of an exchange is given before a deadline only, exactly if no clock before its last use
has reached the deadline.  Where nothing is rounded, the deadline of the declared lifetime is missed
exactly by a lifetime of zero seconds; and as long as the endpoint delivers nothing else, the token is
given just until five seconds before the lifetime is over, where zero counts as the default. -/
theorem endsBy_declared_iff {k : KeyFlow} {w : World} {c : Call}
    (hsent : (k.step w c).1.sent ≠ []) {token lifetime : Value}
    (hdelivered : delivered c.outcome = .ok (token, lifetime)) (hl : IsCount lifetime) :
    (∀ deadline, EndsBy k w c token deadline ↔
      ∀ now : Numeric, now.less (lastUse (heldUntil w.cache c.clock lifetime)) = true →
        ¬ now.Reaches deadline) ∧
    ∀ t, c.clock.Denotes t → ExactSums t (seconds lifetime) →
      (EndsBy k w c token (t + declared lifetime - 5) ↔ lifetime ≠ .int 0) ∧
      ∀ later, Quiet later → ∀ d,
        (k.step (after k (k.step w c).2 later) d).1 = ⟨.ok token, []⟩ ↔
          d.clock.Below (t + seconds lifetime - 5) := by
  refine ⟨endsBy_iff hsent hdelivered, fun t ht hsums => ⟨?_, fun later hlater d => ?_⟩⟩
  · rw [endsBy_iff hsent hdelivered]
    constructor
    · rintro h rfl
      have hbelow : c.clock.Below (t + seconds (.int 0) - 5) := by
        refine .inl ⟨t, ht, ?_⟩
        change t < t + (600 : ℤ) - 5
        push_cast
        linarith
      have hless : c.clock.less (lastUse (heldUntil w.cache c.clock (.int 0))) = true :=
        (less_lastUse_heldUntil_iff ht hl hsums).mpr hbelow
      refine h c.clock hless (.inl ⟨t, ht, ?_⟩)
      change t + (0 : ℤ) - 5 ≤ t
      push_cast
      linarith
    · intro hzero now hless
      have hbelow := (less_lastUse_heldUntil_iff ht hl hsums).mp hless
      rw [hl.seconds_eq hzero] at hbelow
      exact hbelow.not_reaches
  · rw [step_eq_held_iff, cache_after_of_quiet hlater, cache_of_delivered hsent hdelivered,
      less_lastUse_heldUntil_iff ht hl hsums]
    exact ⟨fun h => h.2.2, fun h => ⟨rfl, isTruthy_of_delivered hdelivered, h⟩⟩

/-- A token that is declared to live no time at all is given past that. -/
theorem endsBy_declared_iff_of_zero :
    let c : Call :=
      ⟨.int 1700000000, 0,
        answering [("access_token", .str "tok-1"), ("expires_in", .int 0)]⟩
    (longFlow.step {} c).1.sent ≠ [] ∧ delivered c.outcome = .ok (.str "tok-1", .int 0) ∧
      ¬ EndsBy longFlow {} c (.str "tok-1") ((1700000000 : ℤ) + declared (.int 0) - 5) := by
  intro c
  have hsent : (longFlow.step {} c).1.sent ≠ [] :=
    sent_ne_nil_iff.mpr ⟨rfl, ⟨1700000000, rfl⟩, by decide +kernel⟩
  have hdelivered : delivered c.outcome = .ok (.str "tok-1", .int 0) :=
    delivered_answering (by simp [Entries.keys, Nat.toDigits_of_lt_base, Numeral.maxDigits]) (by decide)
      (by decide +kernel) rfl
  have hsums : ExactSums (1700000000 : ℤ) (seconds (.int 0)) :=
    .of_natAbs_le (by decide) (by decide) (by decide) (by decide)
  have hiff := (endsBy_declared_iff hsent hdelivered (.inr ⟨0, rfl⟩)).2 _
    (Numeric.denotes_int 1700000000) hsums
  exact ⟨hsent, hdelivered, fun h => hiff.1.mp h rfl⟩

end MachineCloud.Account.KeyFlow
