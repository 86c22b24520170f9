import MachineCloud.Account.KeyFlow
import MachineCloud.Proofs.Number.Exact

/-!
# Clocks and expiry

The time at which a token expires is a binary64 sum, and whether it is still good is a comparison
with another binary64 difference.  Both are settled here in terms of rational numbers, for clocks
that are integers and for clocks that are binary64 numbers.

`ExactSums` collects what has to be representable for neither sum to be rounded.
-/

namespace MachineCloud

open Binary64 (Representable)

namespace Value.Numeric

/-- The rational number that a finite number stands for. -/
def Denotes : Numeric → ℚ → Prop
  | .int n, q => q = n
  | .float x, q => x.Denotes q

/-- Whether a number lies below a bound.  A negative infinity does, and a NaN does not. -/
def Below (x : Numeric) (bound : ℚ) : Prop :=
  (∃ q, x.Denotes q ∧ q < bound) ∨ x = .float (.infinite true)

/-- Whether a number has reached a bound.  A positive infinity has, and a NaN has not. -/
def Reaches (x : Numeric) (bound : ℚ) : Prop :=
  (∃ q, x.Denotes q ∧ bound ≤ q) ∨ x = .float (.infinite false)

/-- An integer stands for itself. -/
theorem denotes_int (n : ℤ) : (Numeric.int n).Denotes n := rfl

/-- A number stands for at most one value. -/
theorem Denotes.unique {x : Numeric} {p q : ℚ} (hp : x.Denotes p) (hq : x.Denotes q) : p = q := by
  obtain n | (⟨s, m, e⟩ | _ | _) := x
  · exact hp.trans hq.symm
  · exact hp.trans hq.symm
  · exact hp.elim
  · exact hp.elim

/-- No number has reached a bound below which it lies. -/
theorem Below.not_reaches {x : Numeric} {bound : ℚ} (h : x.Below bound) : ¬ x.Reaches bound := by
  rintro (⟨q, hq, hle⟩ | rfl)
  · rcases h with ⟨p, hp, hlt⟩ | rfl
    · rw [hp.unique hq] at hlt
      exact absurd hlt (not_lt.mpr hle)
    · exact hq.elim
  · rcases h with ⟨p, hp, -⟩ | h
    · exact hp.elim
    · simp at h

/-- Lying below an integer is the order of the integers. -/
theorem below_int_iff {n m : ℤ} : (Numeric.int n).Below m ↔ n < m := by
  constructor
  · rintro (⟨q, rfl, hlt⟩ | h)
    · exact_mod_cast hlt
    · cases h
  · exact fun h => .inl ⟨n, rfl, by exact_mod_cast h⟩

/-- Comparing with a binary64 number compares with what that number stands for. -/
theorem less_float_iff {x : Numeric} {y : Binary64} {q : ℚ} (hy : y.Denotes q) :
    x.less (.float y) = true ↔ x.Below q := by
  obtain n | x := x
  · rw [less, Binary64.intLt_iff hy]
    exact ⟨fun h => .inl ⟨n, rfl, h⟩, by rintro (⟨p, rfl, h⟩ | h); exacts [h, nomatch h]⟩
  · obtain ⟨s, m, e⟩ | s | _ := x
    · have hx : (Binary64.finite s m e).Denotes _ := rfl
      rw [less, Binary64.lt_iff hx hy]
      exact ⟨fun h => .inl ⟨_, rfl, h⟩, by rintro (⟨p, rfl, h⟩ | h); exacts [h, nomatch h]⟩
    · obtain ⟨t, n, f⟩ | _ | _ := y
      · cases s
        · exact ⟨nofun, by rintro (⟨p, hp, -⟩ | h); exacts [hp.elim, nomatch h]⟩
        · exact ⟨fun _ => .inr rfl, fun _ => rfl⟩
      · exact hy.elim
      · exact hy.elim
    · exact ⟨nofun, by rintro (⟨p, hp, -⟩ | h); exacts [hp.elim, nomatch h]⟩

/-- An integer or binary64 number with a representable value is converted without loss. -/
theorem toBinary64_denotes {x : Numeric} {q : ℚ} (hx : x.Denotes q) (hr : Representable q) :
    ∃ y, x.toBinary64 = .ok y ∧ y.Denotes q := by
  obtain n | x := x
  · obtain rfl : q = n := hx
    have hn := Binary64.ofInt_denotes hr
    refine ⟨Binary64.ofInt n, ?_, hn⟩
    simp only [toBinary64]
    split
    · next h =>
      rw [h] at hn
      exact hn.elim
    · rfl
  · exact ⟨x, rfl, hx⟩

end Value.Numeric

namespace Account.KeyFlow

open Value (Numeric)

/-- What has to be representable for the expiry of a token, and for the last moment of its use, to
be exact. -/
structure ExactSums (t l : ℚ) : Prop where
  now : Representable t
  lifetime : Representable l
  expiry : Representable (t + l)
  lastUse : Representable (t + l - 5)

/-- Integers are summed exactly as long as they stay within `2 ^ 53`. -/
theorem ExactSums.of_natAbs_le {t l : ℤ} (ht : t.natAbs ≤ 2 ^ 53) (hl : l.natAbs ≤ 2 ^ 53)
    (hsum : (t + l).natAbs ≤ 2 ^ 53) (hlast : (t + l - 5).natAbs ≤ 2 ^ 53) : ExactSums t l where
  now := Binary64.representable_intCast ht
  lifetime := Binary64.representable_intCast hl
  expiry := by exact_mod_cast Binary64.representable_intCast hsum
  lastUse := by exact_mod_cast Binary64.representable_intCast hlast

/-- How many seconds a token is taken to live that came with a lifetime: as many as an integer other
than zero says, and otherwise the default. -/
def seconds : Value → ℤ
  | .int e => if e = 0 then defaultTokenLifetime else e
  | _ => defaultTokenLifetime

/-- Whether a lifetime is missing or an integer. -/
def IsCount (lifetime : Value) : Prop := lifetime = .null ∨ ∃ e, lifetime = .int e

/-- A lifetime that is missing or an integer is read as its seconds. -/
theorem IsCount.orElse {lifetime : Value} (h : IsCount lifetime) :
    lifetime.orElse (.int defaultTokenLifetime) = .int (seconds lifetime) := by
  rcases h with rfl | ⟨e, rfl⟩
  · rfl
  · by_cases he : e = 0
    · subst he
      rfl
    · simp [Value.orElse, Value.isTruthy, seconds, he]

/-- Without rounding, a token expires its seconds after the clock. -/
theorem expiry_denotes {now : Numeric} {t : ℚ} {lifetime : Value} (ht : now.Denotes t)
    (hl : IsCount lifetime) (h : ExactSums t (seconds lifetime)) :
    ∃ x, expiry now lifetime = .ok x ∧ x.Denotes (t + seconds lifetime) := by
  obtain ⟨x, hx, hxt⟩ := Value.Numeric.toBinary64_denotes ht h.now
  obtain ⟨y, hy, hyl⟩ := Value.Numeric.toBinary64_denotes (x := .int (seconds lifetime)) rfl
    h.lifetime
  refine ⟨x.add y, ?_, Binary64.add_denotes hxt hyl h.expiry⟩
  have hval : (Value.int (seconds lifetime)).toBinary64 = .ok y := hy
  rw [expiry, hl.orElse, hval, hx]
  rfl

/-- The last moment at which a token that expires then is given. -/
def lastUse (expiresAt : Binary64) : Numeric := .float (expiresAt.sub (.ofInt expiryLeeway))

/-- Without rounding, the last use is five seconds before the time of expiry. -/
theorem less_lastUse_iff {now : Numeric} {expiresAt : Binary64} {p : ℚ}
    (hp : expiresAt.Denotes p) (hr : Representable (p - 5)) :
    now.less (lastUse expiresAt) = true ↔ now.Below (p - 5) := by
  have h5 : (Binary64.ofInt expiryLeeway).Denotes 5 :=
    Binary64.ofInt_denotes (Binary64.representable_intCast (n := 5) (by decide))
  exact Value.Numeric.less_float_iff (Binary64.sub_denotes hp h5 hr)

/-- A token is good if it is present and its last use is still to come. -/
theorem isFresh_iff {cache : TokenCache} {now : Numeric} :
    isFresh now cache = true ↔
      cache.token.isTruthy = true ∧ now.less (lastUse cache.expiresAt) = true := by
  rw [isFresh, Bool.and_eq_true, lastUse]

end Account.KeyFlow

end MachineCloud
