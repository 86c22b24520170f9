import MachineCloud.Proofs.KeyFlow.Expiry
import MachineCloud.Proofs.KeyFlow.Run

/-!
# The cache against the history of a run

In an orderly run the clocks are integers, and a token that is delivered comes with a positive number
of seconds or with no lifetime.  The clocks may go either way, and every exchange may fail.

`run_follows_latest` says what any next call of such a run comes to and whether it asks for a token, in
terms of the latest exchange that succeeded.  A key that is too short to sign never asks: the theorem
`short_key_never_asks` has one that is a proper key otherwise.
-/

namespace MachineCloud.Account.KeyFlow

open Value (Numeric)

/-! ## Orderly runs -/

/-- A call at an integer clock.  A token that its answer delivers comes with a positive number of
seconds or with no lifetime at all, and the sums made of these are exact. -/
structure Orderly (c : Call) (now : ℤ) : Prop where
  clock : c.clock = .int now
  lifetime : ∀ token lifetime, delivered c.outcome = .ok (token, lifetime) →
    (lifetime = .null ∨ ∃ e : ℤ, 0 < e ∧ lifetime = .int e) ∧ ExactSums now (seconds lifetime)

/-- The lifetime of an orderly answer leads to a time of expiry. -/
theorem Orderly.isBounded {c : Call} {now : ℤ} (hc : Orderly c now) : c.IsBounded := by
  intro token lifetime h
  obtain ⟨hcount, hexact⟩ := hc.lifetime token lifetime h
  have hl : IsCount lifetime := hcount.imp_right fun ⟨e, _, he⟩ => ⟨e, he⟩
  rw [hc.clock]
  obtain ⟨x, hx, -⟩ := expiry_denotes (Numeric.denotes_int now) hl hexact
  exact ⟨x, hx⟩

namespace Exchange

/-- An exchange at an integer clock, whose sums are exact. -/
def Exact (x : Exchange) : Prop :=
  ∃ t : ℤ, x.time = .int t ∧ IsCount x.lifetime ∧ ExactSums t (seconds x.lifetime)

/-- Whether the token of an exchange is good at a clock: its lifetime is not over, nor is it about
to be within five seconds. -/
def Covers (x : Exchange) (now : ℤ) : Prop :=
  ∃ t : ℤ, x.time = .int t ∧ now < t + seconds x.lifetime - 5

end Exchange

/-- An orderly run remembers its latest exchange, which was an exact one. -/
theorem remembers_latest {k : KeyFlow} {w : World} (hw : w.cache = {}) {calls : List Call}
    (hcalls : ∀ c ∈ calls, ∃ now, Orderly c now) :
    Remembers (after k w calls).cache (latest? k w calls) ∧ ∀ x ∈ latest? k w calls, x.Exact := by
  induction calls using List.reverseRecOn with
  | nil =>
    refine ⟨?_, nofun⟩
    change w.cache.token.isTruthy = false
    rw [hw]
    rfl
  | append_singleton calls c ih =>
    obtain ⟨hremembers, hexact⟩ := ih fun d hd => hcalls d (List.mem_append_left _ hd)
    obtain ⟨now, hc⟩ := hcalls c (List.mem_append_right _ (List.mem_singleton_self c))
    rw [after_concat, latest?_concat]
    refine ⟨remembers_step hremembers hc.isBounded, fun x hx => ?_⟩
    rcases Option.or_eq_some_iff.mp hx with hnew | ⟨-, hold⟩
    · obtain ⟨hdelivered, htime, -⟩ := exchange?_eq_some hnew
      obtain ⟨hcount, hsums⟩ := hc.lifetime _ _ hdelivered
      exact ⟨now, htime.trans hc.clock, hcount.imp_right fun ⟨e, _, he⟩ => ⟨e, he⟩, hsums⟩
    · exact hexact x hold

/-- A cache that remembers an exact exchange is fresh as long as that exchange covers the clock. -/
theorem isFresh_iff_covers {cache : TokenCache} {x? : Option Exchange} (h : Remembers cache x?)
    (hexact : ∀ x ∈ x?, x.Exact) (now : ℤ) :
    isFresh (.int now) cache = true ↔ ∃ x ∈ x?, x.Covers now := by
  cases x? with
  | none =>
    have htoken : cache.token.isTruthy = false := h
    simp [isFresh, htoken]
  | some x =>
    obtain ⟨htruthy, htoken, hexpiry⟩ := h
    obtain ⟨t, htime, hcount, hsums⟩ := hexact x rfl
    rw [htime] at hexpiry
    obtain ⟨y, hy, hden⟩ := expiry_denotes (Numeric.denotes_int t) hcount hsums
    obtain rfl : y = cache.expiresAt := Except.ok.inj (hy.symm.trans hexpiry)
    have hbound : (t : ℚ) + seconds x.lifetime - 5 = ((t + seconds x.lifetime - 5 : ℤ) : ℚ) := by
      push_cast
      rfl
    rw [isFresh_iff, less_lastUse_iff hden hsums.lastUse, hbound, Numeric.below_int_iff]
    constructor
    · rintro ⟨-, hlt⟩
      exact ⟨x, rfl, t, htime, hlt⟩
    · rintro ⟨_, ⟨⟩, t', htime', hlt⟩
      rw [htime] at htime'
      cases htime'
      exact ⟨htoken ▸ htruthy, hlt⟩

/-- What a call comes to when the latest exchange before it was `x?`: its answer, and whether a
request was sent for it. -/
structure Follows (k : KeyFlow) (x? : Option Exchange) (c : Call) (now : ℤ) (a : Answer) : Prop where
  /-- No request is sent while the latest exchange covers the clock, nor with a key that cannot
  sign. -/
  sent_eq_nil_iff : a.sent = [] ↔ (∃ x ∈ x?, x.Covers now) ∨ ¬ k.CanSign
  /-- As long as it covers the clock, the token of the latest exchange is given. -/
  held : ∀ x ∈ x?, x.Covers now → a.result = .ok x.token
  /-- Otherwise one request is sent, and the token is given that it delivers, or it fails. -/
  asked : (¬ ∃ x ∈ x?, x.Covers now) → k.CanSign →
    (∃ assertion, a.sent = [.tokenRequest k.tokenEndpoint assertion k.timeout]) ∧
      a.result = (delivered c.outcome).map Prod.fst
  /-- Without a key that can sign there is no token. -/
  unable : ¬ k.CanSign → ∃ failure, a.result = .error failure

/-- An orderly call follows the exchange that its cache remembers. -/
theorem follows_of_remembers {k : KeyFlow} {cache cache' : TokenCache} {c : Call} {a : Answer}
    (hspec : Course k cache c a cache') {x? : Option Exchange} (hremembers : Remembers cache x?)
    (hexact : ∀ x ∈ x?, x.Exact) (hkey : ∀ x ∈ x?, k.CanSign) {now : ℤ} (hc : Orderly c now) :
    Follows k x? c now a := by
  have hfresh : isFresh c.clock cache = true ↔ ∃ x ∈ x?, x.Covers now := by
    rw [hc.clock]
    exact isFresh_iff_covers hremembers hexact now
  have hno (h : isFresh c.clock cache = false) : ¬ ∃ x ∈ x?, x.Covers now := fun hcovered => by
    rw [hfresh.mpr hcovered] at h
    cases h
  -- a request is sent in all the ways that have an assertion, and the answer decides what follows
  have hasked {assertion : Assertion} {result : Except Failure Value}
      (h : isFresh c.clock cache = false) (hsigned : k.signed c.clock c.drawn = .ok assertion)
      (hresult : result = (delivered c.outcome).map Prod.fst) :
      Follows k x? c now ⟨result, [.tokenRequest k.tokenEndpoint assertion k.timeout]⟩ := by
    have hsign := ((signed_eq_ok_iff k _ _).mp ⟨_, hsigned⟩).2
    refine ⟨⟨nofun, fun hor => ?_⟩, fun x hx hcovers => absurd ⟨x, hx, hcovers⟩ (hno h),
      fun _ _ => ⟨⟨_, rfl⟩, hresult⟩, fun hshort => absurd hsign hshort⟩
    exact (hor.elim (hno h) (absurd hsign)).elim
  cases hspec with
  | held h =>
    have hcovered := hfresh.mp h
    obtain ⟨x, hx, _⟩ := id hcovered
    refine ⟨⟨fun _ => .inl hcovered, fun _ => rfl⟩, fun y hy _ => ?_,
      fun hnot => absurd hcovered hnot, fun hnot => absurd (hkey x hx) hnot⟩
    obtain rfl : x? = some y := hy
    exact congrArg Except.ok hremembers.2.1
  | unsigned h hsigned =>
    have hshort : ¬ k.CanSign := fun hsign => by
      have hclock : ∃ n, c.clock.truncate = .ok n := ⟨now, by rw [hc.clock]; rfl⟩
      obtain ⟨assertion, hok⟩ := (signed_eq_ok_iff k c.clock c.drawn).mpr ⟨hclock, hsign⟩
      rw [hok] at hsigned
      cases hsigned
    exact ⟨⟨fun _ => .inr hshort, fun _ => rfl⟩,
      fun x hx hcovers => absurd ⟨x, hx, hcovers⟩ (hno h),
      fun _ hsign => absurd hsign hshort, fun _ => ⟨_, rfl⟩⟩
  | refused h hsigned hdelivered => exact hasked h hsigned (by rw [hdelivered]; rfl)
  | unbounded _ _ hdelivered hexpiry =>
    exact absurd hexpiry (hc.isBounded.expiry_ne_error hdelivered _)
  | renewed h hsigned hdelivered _ => exact hasked h hsigned (by rw [hdelivered]; rfl)

/-- In an orderly run every call follows the latest exchange before it, and a call that fails changes
nothing for the calls after it, whatever these are. -/
theorem run_follows_latest (k : KeyFlow) (w : World) (hw : w.cache = {}) (calls : List Call)
    (hcalls : ∀ d ∈ calls, ∃ t, Orderly d t) (c : Call) (now : ℤ) (hc : Orderly c now) :
    Follows k (latest? k w calls) c now (k.step (after k w calls) c).1 ∧
    ∀ failure, (k.step (after k w calls) c).1.result = .error failure → ∀ later : List Call,
      answers k (k.step (after k w calls) c).2 later = answers k (after k w calls) later := by
  obtain ⟨hremembers, hexact⟩ := remembers_latest hw hcalls
  have hkey : ∀ x ∈ latest? k w calls, k.CanSign := fun x hx =>
    canSign_of_mem_exchanges (List.mem_of_getLast? hx)
  refine ⟨follows_of_remembers (step_spec k _ c) hremembers hexact hkey hc, ?_⟩
  intro failure hfailure later
  exact answers_congr k (cache_of_failure hc.isBounded hfailure) later

/-- A call that gets a token without a lifetime. -/
def callAt (now : ℤ) : Call :=
  ⟨.int now, 0, answering [("access_token", .str "tok-1")]⟩

/-- Such a call is orderly at clocks that are small enough. -/
theorem orderly_callAt {now : ℤ} (h : now.natAbs ≤ 2 ^ 52) : Orderly (callAt now) now where
  clock := rfl
  lifetime := by
    have hdelivered : delivered (callAt now).outcome = .ok (.str "tok-1", .null) :=
      delivered_answering (by simp [Entries.keys]) (by decide) (by decide +kernel) rfl
    intro token lifetime hok
    rw [hdelivered] at hok
    cases hok
    refine ⟨.inl rfl, ExactSums.of_natAbs_le (by omega) (by decide) ?_ ?_⟩
    · change (now + 600).natAbs ≤ 2 ^ 53
      omega
    · change (now + 600 - 5).natAbs ≤ 2 ^ 53
      omega

/-- A run of two calls, the second of which comes just when the token of the first one is no longer
used. -/
theorem run_follows_latest_of_two :
    (∀ d ∈ [callAt 1700000000], ∃ t, Orderly d t) ∧ Orderly (callAt 1700000595) 1700000595 ∧
    Follows longFlow (latest? longFlow {} [callAt 1700000000]) (callAt 1700000595) 1700000595
      (longFlow.step (after longFlow {} [callAt 1700000000]) (callAt 1700000595)).1 := by
  have hfirst : ∀ d ∈ [callAt 1700000000], ∃ t, Orderly d t := by
    intro d hd
    rw [List.mem_singleton.mp hd]
    exact ⟨1700000000, orderly_callAt (by decide)⟩
  have hsecond : Orderly (callAt 1700000595) 1700000595 := orderly_callAt (by decide)
  exact ⟨hfirst, hsecond, (run_follows_latest longFlow {} rfl _ hfirst _ _ hsecond).1⟩

/-- It is not true of all proper keys that a call asks for a token whenever no exchange covers its
clock: a short one loads, but never signs an assertion to ask with. -/
theorem short_key_never_asks :
    ¬ ∀ (k : KeyFlow) (w : World) (calls : List Call) (c : Call) (now : ℤ),
      k.signer.isConsistent = true → w.cache = {} → (∀ d ∈ calls, ∃ t, Orderly d t) →
      Orderly c now →
      ((k.step (after k w calls) c).1.sent = [] ↔ ∃ x ∈ latest? k w calls, x.Covers now) := by
  intro h
  have hsent : (shortFlow.step {} (callAt 1700000000)).1.sent = [] := by
    by_contra hne
    exact absurd (sent_ne_nil_iff.mp hne).2.2 (by decide)
  obtain ⟨x, hx, -⟩ := (h shortFlow {} [] (callAt 1700000000) 1700000000 (by decide +kernel) rfl
    nofun (orderly_callAt (by decide))).mp hsent
  cases hx

end MachineCloud.Account.KeyFlow
