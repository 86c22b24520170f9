import MachineCloud.Proofs.KeyFlow.Run

/-!
# Refreshing a token, all or nothing

A call that needs a new token should either give the token that is delivered and hold it with its own
expiry, or fail and leave the cache as it was; and a failure that the endpoint has answered to should
say that the exchange failed (`AllOrNothing`).

The token is held before its lifetime is looked at, so this breaks for the answers with a lifetime
that is no number (`HasNoNumber`) or at a clock beyond all binary64 numbers: the new token is then held
with the expiry of the old one.  It also breaks for bodies in which lists and maps stand too deep in
each other, whose failure is not one of the exchange.  `allOrNothing_iff` says that it breaks for
nothing else.
-/

namespace MachineCloud.Account.KeyFlow

open Value (Numeric)

/-! ## Lifetimes that are no number -/

/-- Whether an integer lies beyond the range of binary64. -/
def IsHuge (n : Int) : Prop := ∃ s, Binary64.ofInt n = .infinite s

/-- Whether a lifetime counts as given, but does not lead to a number: a text that reads as none, a
list or a map with something in it, or an integer that is too large. -/
def HasNoNumber : Value → Prop
  | .int n => IsHuge n
  | .str s => s ≠ "" ∧ Numeral.readFloat? s = none
  | .list items => items ≠ []
  | .map entries => entries ≠ []
  | .null | .bool _ | .float _ => False

/-- Only the large integers have no binary64 number. -/
theorem toBinary64_int_eq_error_iff {n : Int} :
    (∃ fault, (Numeric.int n).toBinary64 = .error fault) ↔ IsHuge n := by
  simp only [Numeric.toBinary64, IsHuge]
  cases Binary64.ofInt n <;> simp

/-- A lifetime is read without a fault unless it has no number. -/
theorem toBinary64_orElse_eq_error_iff (lifetime : Value) :
    (∃ fault, (lifetime.orElse (.int defaultTokenLifetime)).toBinary64 = .error fault) ↔
      HasNoNumber lifetime := by
  have hdefault : ¬ ∃ fault, (Value.int defaultTokenLifetime).toBinary64 = .error fault :=
    fun ⟨fault, h⟩ => nomatch h
  cases lifetime with
  | null => exact iff_of_false hdefault id
  | bool b =>
    cases b with
    | false => exact iff_of_false hdefault id
    | true => exact iff_of_false (fun ⟨fault, h⟩ => nomatch h) id
  | int n =>
    by_cases hn : n = 0
    · subst hn
      exact iff_of_false hdefault fun ⟨s, h⟩ => nomatch h
    · have horElse : (Value.int n).orElse (.int defaultTokenLifetime) = .int n := by
        simp [Value.orElse, Value.isTruthy, hn]
      rw [horElse]
      exact toBinary64_int_eq_error_iff
  | float x =>
    cases hx : x.isZero with
    | true => simpa [Value.orElse, Value.isTruthy, hx, HasNoNumber] using hdefault
    | false =>
      simp [Value.orElse, Value.isTruthy, hx, HasNoNumber, Value.toBinary64, Value.numeric?,
        Numeric.toBinary64]
  | str s =>
    by_cases hs : s = ""
    · simpa [Value.orElse, Value.isTruthy, hs, HasNoNumber] using hdefault
    · cases hr : Numeral.readFloat? s <;>
        simp [Value.orElse, Value.isTruthy, hs, HasNoNumber, Value.toBinary64, hr]
  | list items =>
    cases items with
    | nil => exact iff_of_false hdefault fun h => h rfl
    | cons v rest => exact iff_of_true ⟨_, rfl⟩ (List.cons_ne_nil v rest)
  | map entries =>
    cases entries with
    | nil => exact iff_of_false hdefault fun h => h rfl
    | cons p rest => exact iff_of_true ⟨_, rfl⟩ (List.cons_ne_nil p rest)

/-- What keeps a lifetime from leading to a time of expiry: it has no number, or the clock has
none. -/
def NoExpiry (now : Numeric) (lifetime : Value) : Prop :=
  HasNoNumber lifetime ∨ ∃ n, now = .int n ∧ IsHuge n

/-- There is a time of expiry unless something keeps the lifetime from leading to one. -/
theorem expiry_eq_error_iff (now : Numeric) (lifetime : Value) :
    (∃ fault, expiry now lifetime = .error fault) ↔ NoExpiry now lifetime := by
  have hlifetime := toBinary64_orElse_eq_error_iff lifetime
  rw [NoExpiry, ← hlifetime, expiry]
  rcases (lifetime.orElse (.int defaultTokenLifetime)).toBinary64 with fault | x
  · exact iff_of_true ⟨fault, rfl⟩ (.inl ⟨fault, rfl⟩)
  · cases now with
    | int n =>
      have hclock := toBinary64_int_eq_error_iff (n := n)
      have hnone : ¬ ∃ fault, (Except.ok x : Except Fault Binary64) = .error fault := by simp
      rcases hn : (Numeric.int n).toBinary64 with fault | y
      · exact iff_of_true ⟨fault, rfl⟩ (.inr ⟨n, rfl, hclock.mp ⟨fault, hn⟩⟩)
      · refine iff_of_false (fun ⟨fault, h⟩ => nomatch h) ?_
        rintro (h | ⟨m, hm, hhuge⟩)
        · exact hnone h
        · cases hm
          obtain ⟨fault, h⟩ := hclock.mpr hhuge
          rw [hn] at h
          cases h
    | float y => exact iff_of_false (fun ⟨fault, h⟩ => nomatch h) (by simp)

/-! ## Bodies that are too deep -/

/-- Whether an answer counts as a success and its body holds lists and maps that stand too deep in
each other to be read. -/
def TooDeep (o : Outcome) : Prop :=
  ∃ status reason body what, o = .response status reason body ∧ Http.isOk status = true ∧
    Http.bodyValue body = .error (.tooDeep what)

/-- Why a response delivers no token is a failure of the exchange, unless its body is too deep. -/
theorem isToken_of_delivered {status : Int} {reason : String} {body : Bytes} {failure : Failure}
    (h : delivered (.response status reason body) = .error failure) :
    failure.fault.isToken = true ↔ ¬ TooDeep (.response status reason body) := by
  have hdeep : TooDeep (.response status reason body) ↔
      Http.isOk status = true ∧ ∃ what, Http.bodyValue body = .error (.tooDeep what) := by
    constructor
    · rintro ⟨_, _, _, what, ho, hok, hbody⟩
      cases ho
      exact ⟨hok, what, hbody⟩
    · rintro ⟨hok, what, hbody⟩
      exact ⟨status, reason, body, what, rfl, hok, hbody⟩
  rw [hdeep]
  simp only [delivered] at h
  split at h
  · next hstatus =>
    cases h
    refine iff_of_true rfl ?_
    rintro ⟨hok, -⟩
    simp [hok] at hstatus
  · next hstatus =>
    have hok : Http.isOk status = true := by simpa using hstatus
    split at h
    · next what hbody =>
      cases h
      exact iff_of_false Bool.false_ne_true (not_not_intro ⟨hok, what, hbody⟩)
    · next fault hnot hbody =>
      cases h
      refine iff_of_true (by simp [Fault.isToken]) ?_
      rintro ⟨-, what, hwhat⟩
      rw [hwhat] at hbody
      cases hbody
      exact hnot what rfl
    · next data hbody =>
      refine iff_of_true ?_ ?_
      · split at h
        · split at h
          · cases h
            rfl
          · cases h
        · cases h
          rfl
      · rintro ⟨-, what, hwhat⟩
        rw [hwhat] at hbody
        cases hbody

/-- An answer that delivers a token was read. -/
theorem not_tooDeep_of_delivered {o : Outcome} {d : Value × Value} (h : delivered o = .ok d) :
    ¬ TooDeep o := by
  rintro ⟨status, reason, body, what, rfl, hok, hbody⟩
  simp [delivered, hok, hbody] at h

/-- Only a response delivers a token. -/
theorem response_of_delivered {o : Outcome} {d : Value × Value} (h : delivered o = .ok d) :
    ∃ status reason body, o = .response status reason body := by
  cases o with
  | failed failure => cases h
  | response status reason body => exact ⟨status, reason, body, rfl⟩

/-! ## All or nothing -/

/-- Whether the endpoint answered in a call: a request was sent, and a response came. -/
def Answered (c : Call) (a : Answer) : Prop :=
  a.sent ≠ [] ∧ ∃ status reason body, c.outcome = .response status reason body

/-- A call that needs a token gives the one that is delivered and holds it with its own expiry; or it
fails, leaves what is held as it was, and says that the exchange failed if there was an answer. -/
def AllOrNothing (k : KeyFlow) (w : World) (c : Call) : Prop :=
  (∃ token lifetime expiresAt, delivered c.outcome = .ok (token, lifetime) ∧
    expiry c.clock lifetime = .ok expiresAt ∧ (k.step w c).1.result = .ok token ∧
    (k.step w c).2.cache = ⟨token, expiresAt⟩) ∨
  ∃ failure, (k.step w c).1.result = .error failure ∧ (k.step w c).2.cache = w.cache ∧
    (Answered c (k.step w c).1 → failure.fault.isToken = true)

/-- Whether the answer to a call delivers a token that has no time of expiry. -/
def Unbounded (c : Call) : Prop :=
  ∃ token lifetime, delivered c.outcome = .ok (token, lifetime) ∧ NoExpiry c.clock lifetime

/-- A delivered token without a time of expiry is held with the old one, and the call fails with
something else than a failed exchange. -/
theorem step_of_noExpiry {k : KeyFlow} {w : World} {c : Call}
    (hfresh : isFresh c.clock w.cache = false) (hasks : Asks k c) {token lifetime : Value}
    (hdelivered : delivered c.outcome = .ok (token, lifetime)) (hno : NoExpiry c.clock lifetime) :
    (k.step w c).2.cache = { w.cache with token := token } ∧
      ∃ failure, (k.step w c).1.result = .error failure ∧ failure.fault.isToken = false := by
  have hsent := sent_ne_nil_iff.mpr ⟨hfresh, hasks⟩
  obtain ⟨fault, hfault⟩ := (expiry_eq_error_iff _ _).mpr hno
  have hspec := step_spec k w c
  generalize (k.step w c).1 = a, (k.step w c).2.cache = cache' at hspec hsent ⊢
  cases hspec with
  | held _ => exact absurd rfl hsent
  | unsigned _ _ => exact absurd rfl hsent
  | refused _ _ h => cases hdelivered.symm.trans h
  | unbounded _ _ h hexpiry =>
    cases hdelivered.symm.trans h
    exact ⟨rfl, _, rfl, Fault.isToken_of_isNumeric (isNumeric_of_expiry hexpiry)⟩
  | renewed _ _ h hexpiry =>
    cases hdelivered.symm.trans h
    cases hfault.symm.trans hexpiry

/-- A call that needs a token gets it all or changes nothing, and tells a failed exchange from other
failures, exactly if it does not get an answer without a time of expiry or with a body that is too
deep.  In the first of these cases it fails with something else than a failed exchange, and holds the
new token with the old expiry. -/
theorem allOrNothing_iff (k : KeyFlow) (w : World) (c : Call)
    (hfresh : isFresh c.clock w.cache = false) :
    (AllOrNothing k w c ↔ ¬ (Asks k c ∧ (Unbounded c ∨ TooDeep c.outcome))) ∧
    (Asks k c → ∀ token lifetime, delivered c.outcome = .ok (token, lifetime) →
      NoExpiry c.clock lifetime →
        (k.step w c).2.cache = { w.cache with token := token } ∧
        ∃ failure, (k.step w c).1.result = .error failure ∧ failure.fault.isToken = false) := by
  refine ⟨?_, fun hasks token lifetime => step_of_noExpiry hfresh hasks⟩
  have hspec := step_spec k w c
  unfold AllOrNothing Asks
  rw [← signed_eq_ok_iff k c.clock c.drawn]
  generalize (k.step w c).1 = a, (k.step w c).2.cache = cache' at hspec ⊢
  cases hspec with
  | held h => cases hfresh.symm.trans h
  | unsigned _ hsigned =>
    refine iff_of_true (.inr ⟨_, rfl, rfl, fun h => absurd rfl h.1⟩) ?_
    rintro ⟨⟨assertion, h⟩, -⟩
    cases hsigned.symm.trans h
  | @refused assertion failure _ hsigned hdelivered =>
    have hbounded : ¬ Unbounded c := by
      rintro ⟨_, _, h, -⟩
      cases hdelivered.symm.trans h
    have htoken : Answered c ⟨.error failure, [.tokenRequest k.tokenEndpoint assertion k.timeout]⟩ →
        (failure.fault.isToken = true ↔ ¬ TooDeep c.outcome) := by
      rintro ⟨-, status, reason, body, ho⟩
      rw [ho] at hdelivered ⊢
      exact isToken_of_delivered hdelivered
    constructor
    · rintro (⟨_, _, _, h, -⟩ | ⟨_, ⟨⟩, -, h⟩) ⟨-, hor⟩
      · cases hdelivered.symm.trans h
      · have hdeep := hor.resolve_left hbounded
        obtain ⟨status, reason, body, _, ho, -, -⟩ := id hdeep
        have ha : Answered c
            ⟨.error failure, [.tokenRequest k.tokenEndpoint assertion k.timeout]⟩ :=
          ⟨List.cons_ne_nil _ _, status, reason, body, ho⟩
        exact (htoken ha).mp (h ha) hdeep
    · intro hnot
      refine .inr ⟨failure, rfl, rfl, fun h => (htoken h).mpr fun hdeep => ?_⟩
      exact hnot ⟨⟨assertion, hsigned⟩, .inr hdeep⟩
  | @unbounded assertion token lifetime fault _ hsigned hdelivered hexpiry =>
    have hno := (expiry_eq_error_iff _ _).mp ⟨fault, hexpiry⟩
    refine iff_of_false ?_ (not_not_intro ⟨⟨_, hsigned⟩, .inl ⟨_, _, hdelivered, hno⟩⟩)
    rintro (⟨_, _, _, _, -, ⟨⟩, -⟩ | ⟨_, ⟨⟩, -, h⟩)
    have ha := h ⟨List.cons_ne_nil _ _, response_of_delivered hdelivered⟩
    rw [Failure.fault_of, Fault.isToken_of_isNumeric (isNumeric_of_expiry hexpiry)] at ha
    cases ha
  | @renewed assertion token lifetime expiresAt _ hsigned hdelivered hexpiry =>
    refine iff_of_true (.inl ⟨_, _, _, hdelivered, hexpiry, rfl, rfl⟩) ?_
    rintro ⟨-, ⟨_, _, h, hno⟩ | hdeep⟩
    · cases hdelivered.symm.trans h
      obtain ⟨fault, hfault⟩ := (expiry_eq_error_iff _ _).mpr hno
      cases hexpiry.symm.trans hfault
    · exact not_tooDeep_of_delivered hdelivered hdeep

/-- A call at which the token of the cache is over, and the answer to which gives a lifetime in
words. -/
theorem allOrNothing_iff_of_words :
    let w : World := { cache := ⟨.str "tok-1", .ofInt 1700003600⟩ }
    let c : Call :=
      ⟨.int 1700003595, 0,
        answering [("access_token", .str "tok-2"), ("expires_in", .str "soon")]⟩
    isFresh c.clock w.cache = false ∧ ¬ AllOrNothing longFlow w c ∧
      (longFlow.step w c).2.cache = ⟨.str "tok-2", .ofInt 1700003600⟩ := by
  intro w c
  have hfresh : isFresh c.clock w.cache = false := by decide +kernel
  have hasks : Asks longFlow c := ⟨⟨1700003595, rfl⟩, by decide +kernel⟩
  have hdelivered : delivered c.outcome = .ok (.str "tok-2", .str "soon") :=
    delivered_answering (by simp [Entries.keys]) (by decide) (by decide +kernel) rfl
  have hno : NoExpiry c.clock (.str "soon") := .inl ⟨by decide, by decide⟩
  obtain ⟨hiff, hleft⟩ := allOrNothing_iff longFlow w c hfresh
  refine ⟨hfresh, fun h => ?_, (hleft hasks _ _ hdelivered hno).1⟩
  exact hiff.mp h ⟨hasks, .inl ⟨_, _, hdelivered, hno⟩⟩

end MachineCloud.Account.KeyFlow
