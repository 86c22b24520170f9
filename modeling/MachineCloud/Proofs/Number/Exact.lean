import Mathlib.Algebra.Order.Field.Power
import Mathlib.Data.Rat.Cast.Order
import Mathlib.Tactic.FieldSimp
import Mathlib.Tactic.Linarith
import Mathlib.Tactic.Positivity
import Mathlib.Tactic.Ring
import MachineCloud.Number.Binary64

/-!
# Exact binary64 arithmetic

What a finite binary64 number stands for, as a rational number, and when rounding has nothing to
do: a sum whose exact value is representable is that value.  Comparisons are always those of the
values.

`Representable` asks for a 53-bit mantissa over one of the exponents of binary64.  The integers up to
`2 ^ 53` each way are representable (`representable_intCast`), but so are the sums that a clock with
a fraction of a second takes part in.
-/

namespace MachineCloud.Binary64

/-- The rational number that a finite number stands for.  The other numbers stand for none. -/
def Denotes : Binary64 → ℚ → Prop
  | .finite s m e, q => q = (signed s m : ℚ) * 2 ^ e
  | .infinite _, _ => False
  | .nan, _ => False

/-- The rational numbers that some binary64 number with a full exponent range stands for. -/
def Representable (q : ℚ) : Prop :=
  ∃ n e : ℤ, n.natAbs < 2 ^ 53 ∧ minExponent ≤ e ∧ e ≤ maxExponent ∧ q = n * 2 ^ e

/-! ## Sizes -/

/-- `bitLength` is the least number of bits that suffices. -/
theorem bitLength_le_iff (m k : ℕ) : bitLength m ≤ k ↔ m < 2 ^ k := by
  unfold bitLength
  split
  · next h =>
    subst h
    exact ⟨fun _ => by positivity, fun _ => Nat.zero_le _⟩
  · next h => rw [Nat.succ_le_iff, Nat.log2_lt h]

/-- Shifting by `k` places adds `k` bits. -/
theorem bitLength_mul_two_pow {m : ℕ} (hm : m ≠ 0) (k : ℕ) :
    bitLength (m * 2 ^ k) = bitLength m + k := by
  have hmk : m * 2 ^ k ≠ 0 := Nat.mul_ne_zero hm (by positivity)
  have hle : (m * 2 ^ k).log2 = m.log2 + k := by
    rw [Nat.log2_eq_iff hmk, Nat.add_right_comm, Nat.pow_add, Nat.pow_add]
    exact ⟨Nat.mul_le_mul_right _ (Nat.log2_self_le hm),
      Nat.mul_lt_mul_of_pos_right Nat.lt_log2_self (by positivity)⟩
  rw [bitLength, if_neg hmk, bitLength, if_neg hm, hle]
  omega

/-- Two spellings of one magnitude agree once the finer one is scaled. -/
theorem eq_mul_two_pow {a b : ℕ} {e f : ℤ} (hef : e ≤ f)
    (h : (a : ℚ) * 2 ^ e = (b : ℚ) * 2 ^ f) : a = b * 2 ^ (f - e).toNat := by
  have hpos : (0 : ℚ) < 2 ^ e := by positivity
  have hf : (2 : ℚ) ^ f = 2 ^ (f - e).toNat * 2 ^ e := by
    rw [← zpow_natCast, ← zpow_add₀ (by norm_num)]
    congr 1
    omega
  rw [hf, ← mul_assoc] at h
  exact_mod_cast mul_right_cancel₀ hpos.ne' h

/-- The place of a magnitude's first bit does not depend on how it is spelt. -/
theorem bitLength_add_exponent {a b : ℕ} {e f : ℤ} (ha : a ≠ 0)
    (h : (a : ℚ) * 2 ^ e = (b : ℚ) * 2 ^ f) : (bitLength a : ℤ) + e = bitLength b + f := by
  have hb : b ≠ 0 := by
    rintro rfl
    have hpos : (0 : ℚ) < 2 ^ e := by positivity
    simp only [Nat.cast_zero, zero_mul, mul_eq_zero, Nat.cast_eq_zero] at h
    exact h.elim ha hpos.ne'
  rcases le_total e f with hef | hfe
  · have hab := eq_mul_two_pow hef h
    rw [hab, bitLength_mul_two_pow hb]
    omega
  · have hba := eq_mul_two_pow hfe h.symm
    rw [hba, bitLength_mul_two_pow ha]
    omega

/-! ## Rounding what needs no rounding -/

/-- A sign only changes the sign. -/
theorem cast_signed (s : Bool) (m : ℕ) : (signed s m : ℚ) = if s then -(m : ℚ) else m := by
  cases s <;> simp [signed]

/-- Rounding an exact multiple drops zeros only. -/
theorem shiftRound_mul (q k : ℕ) : shiftRound (q * 2 ^ k) k = q := by
  have hk : 0 < 2 ^ k := by positivity
  simp [shiftRound, hk]

/-- A mantissa of 53 bits over a fitting exponent is taken as it is. -/
theorem assemble_of_lt {m : ℕ} {e : ℤ} (s : Bool) (hm : m < 2 ^ 53) (he : e ≤ maxExponent) :
    assemble s m e = .finite s m e := by
  have hne : m ≠ Nat.pow 2 precision := Nat.ne_of_lt hm
  simp only [assemble, if_neg hne, if_neg (not_lt.mpr he)]

/-- A representable magnitude has a representable spelling over the exponent that rounding
chooses, and that exponent is in range. -/
theorem exists_spelling {m : ℕ} {e : ℤ} (hm : m ≠ 0) {n f : ℤ} (hn : n.natAbs < 2 ^ 53)
    (hmin : minExponent ≤ f) (hmax : f ≤ maxExponent)
    (h : (m : ℚ) * 2 ^ e = (n.natAbs : ℚ) * 2 ^ f) :
    ∃ M : ℕ, M < 2 ^ 53 ∧ max minExponent (e + (bitLength m : ℤ) - precision) ≤ maxExponent ∧
      (M : ℚ) * 2 ^ max minExponent (e + (bitLength m : ℤ) - precision) = (m : ℚ) * 2 ^ e := by
  have hbits := bitLength_add_exponent hm h
  have hn53 : bitLength n.natAbs ≤ 53 := (bitLength_le_iff _ _).mpr hn
  set target := max minExponent (e + (bitLength m : ℤ) - precision) with htarget
  have hprec : (precision : ℤ) = 53 := rfl
  have htf : target ≤ f := max_le hmin (by omega)
  have hlow : e + (bitLength m : ℤ) - precision ≤ target := le_max_right _ _
  have hn0 : n.natAbs ≠ 0 := by
    intro h0
    have hpos : (0 : ℚ) < (m : ℚ) * 2 ^ e := by
      have := Nat.pos_of_ne_zero hm
      positivity
    rw [h, h0] at hpos
    simp at hpos
  refine ⟨n.natAbs * 2 ^ (f - target).toNat, ?_, htf.trans hmax, ?_⟩
  · rw [← bitLength_le_iff, bitLength_mul_two_pow hn0]
    omega
  · rw [h]
    push_cast
    rw [mul_assoc, ← zpow_natCast, ← zpow_add₀ (by norm_num)]
    congr 2
    omega

/-- Rounding a representable value gives that value. -/
theorem ofDyadic_denotes {s : Bool} {m : ℕ} {e : ℤ} {q : ℚ} (hq : q = (signed s m : ℚ) * 2 ^ e)
    (hr : Representable q) : (ofDyadic s m e).Denotes q := by
  by_cases hm : m = 0
  · subst hm
    cases s <;> simp_all [ofDyadic, zero, Denotes, signed]
  obtain ⟨n, f, hn, hmin, hmax, hnf⟩ := hr
  have habs : (m : ℚ) * 2 ^ e = (n.natAbs : ℚ) * 2 ^ f := by
    have h := congrArg abs (hq.symm.trans hnf)
    rw [abs_mul, abs_mul, abs_of_pos (by positivity : (0 : ℚ) < 2 ^ e),
      abs_of_pos (by positivity : (0 : ℚ) < 2 ^ f)] at h
    have hs : |(signed s m : ℚ)| = m := by cases s <;> simp [signed]
    rwa [hs, ← Int.cast_abs, Int.abs_eq_natAbs, Int.cast_natCast] at h
  obtain ⟨M, hM, htop, heq⟩ := exists_spelling hm hn hmin hmax habs
  simp only [ofDyadic, if_neg hm]
  generalize max minExponent (e + (bitLength m : ℤ) - precision) = target at htop heq ⊢
  have hden : (Binary64.finite s M target).Denotes q := by
    change q = (signed s M : ℚ) * 2 ^ target
    rw [hq, cast_signed, cast_signed]
    cases s <;> simp [heq]
  split
  · next hte =>
    -- the exponent only gets smaller: the mantissa gains zeros
    rw [Nat.pow_eq, ← eq_mul_two_pow hte heq, assemble_of_lt s hM htop]
    exact hden
  · next hte =>
    -- the exponent gets larger: the mantissa has zeros to lose
    rw [eq_mul_two_pow (not_le.mp hte).le heq.symm, shiftRound_mul, assemble_of_lt s hM htop]
    exact hden

/-- An integer that is representable is converted without loss. -/
theorem ofInt_denotes {n : ℤ} (hr : Representable n) : (ofInt n).Denotes n := by
  refine ofDyadic_denotes ?_ hr
  rw [zpow_zero, mul_one]
  rcases lt_or_ge n 0 with h | h
  · simp [signed, h, abs_of_neg h]
  · simp [signed, not_lt.mpr h, abs_of_nonneg h]

/-! ## Sums -/

/-- A number over a smaller exponent is an integer multiple of that power. -/
theorem scaledTo_mul {g e : ℤ} (h : g ≤ e) (s : Bool) (m : ℕ) :
    (scaledTo g s m e : ℚ) * 2 ^ g = (signed s m : ℚ) * 2 ^ e := by
  have he : (2 : ℚ) ^ e = 2 ^ (e - g).toNat * 2 ^ g := by
    rw [← zpow_natCast, ← zpow_add₀ (by norm_num)]
    congr 1
    omega
  rw [he, scaledTo, cast_signed, cast_signed, Nat.pow_eq]
  cases s <;> simp [mul_assoc]

/-- A sum with a representable value has that value. -/
theorem add_denotes {x y : Binary64} {p q : ℚ} (hx : x.Denotes p) (hy : y.Denotes q)
    (hr : Representable (p + q)) : (x.add y).Denotes (p + q) := by
  obtain ⟨s, m, e⟩ | _ | _ := x
  · obtain ⟨t, n, f⟩ | _ | _ := y
    · have hsum : p + q
          = ((scaledTo (min e f) s m e + scaledTo (min e f) t n f : ℤ) : ℚ) * 2 ^ min e f := by
        rw [Int.cast_add, add_mul, scaledTo_mul (min_le_left e f), scaledTo_mul (min_le_right e f)]
        exact congrArg₂ (· + ·) hx hy
      simp only [add]
      generalize scaledTo (min e f) s m e + scaledTo (min e f) t n f = total at hsum ⊢
      split
      · next h0 =>
        rw [hsum, h0]
        cases s <;> cases t <;> simp [zero, Denotes, signed]
      · refine ofDyadic_denotes ?_ hr
        rw [hsum]
        rcases lt_or_ge total 0 with h | h
        · simp [signed, h, abs_of_neg h]
        · simp [signed, not_lt.mpr h, abs_of_nonneg h]
    · exact hy.elim
    · exact hy.elim
  · exact hx.elim
  · exact hx.elim

/-- The opposite number stands for the opposite value. -/
theorem neg_denotes {x : Binary64} {q : ℚ} (hx : x.Denotes q) : x.neg.Denotes (-q) := by
  obtain ⟨s, m, e⟩ | _ | _ := x
  · change -q = (signed (!s) m : ℚ) * 2 ^ e
    rw [show q = (signed s m : ℚ) * 2 ^ e from hx, cast_signed, cast_signed]
    cases s <;> simp
  · exact hx
  · exact hx

/-- A difference with a representable value has that value. -/
theorem sub_denotes {x y : Binary64} {p q : ℚ} (hx : x.Denotes p) (hy : y.Denotes q)
    (hr : Representable (p - q)) : (x.sub y).Denotes (p - q) := by
  rw [sub_eq_add_neg] at hr ⊢
  exact add_denotes hx (neg_denotes hy) hr

/-! ## Comparisons -/

/-- A power of two may be cancelled from a comparison. -/
theorem mul_zpow_lt_iff (a b : ℤ) (g : ℤ) :
    (a : ℚ) * 2 ^ g < (b : ℚ) * 2 ^ g ↔ a < b := by
  rw [mul_lt_mul_iff_left₀ (by positivity), Int.cast_lt]

/-- An integer over a negative exponent. -/
theorem mul_two_pow_mul {g : ℤ} (h : g ≤ 0) (n : ℤ) :
    ((n * (Nat.pow 2 (-g).toNat : ℕ) : ℤ) : ℚ) * 2 ^ g = n := by
  rw [Nat.pow_eq]
  push_cast
  rw [mul_assoc, ← zpow_natCast, ← zpow_add₀ (by norm_num), Int.toNat_of_nonneg (by omega),
    neg_add_cancel, zpow_zero, mul_one]

/-- Comparing numbers compares their values. -/
theorem lt_iff {x y : Binary64} {p q : ℚ} (hx : x.Denotes p) (hy : y.Denotes q) :
    x.lt y = true ↔ p < q := by
  obtain ⟨s, m, e⟩ | _ | _ := x
  · obtain ⟨t, n, f⟩ | _ | _ := y
    · rw [show p = _ from hx, show q = _ from hy, ← scaledTo_mul (min_le_left e f),
        ← scaledTo_mul (min_le_right e f), mul_zpow_lt_iff]
      simp [lt]
    · exact hy.elim
    · exact hy.elim
  · exact hx.elim
  · exact hx.elim

/-- Comparing an integer with a number compares it with the number's value. -/
theorem intLt_iff {x : Binary64} {q : ℚ} (hx : x.Denotes q) (n : ℤ) :
    x.intLt n = true ↔ (n : ℚ) < q := by
  obtain ⟨s, m, e⟩ | _ | _ := x
  · rw [show q = _ from hx, ← scaledTo_mul (min_le_left e 0),
      ← mul_two_pow_mul (min_le_right e 0) n, mul_zpow_lt_iff]
    simp [intLt]
  · exact hx.elim
  · exact hx.elim

/-! ## Integers -/

/-- The integers up to `2 ^ 53` each way are representable. -/
theorem representable_intCast {n : ℤ} (h : n.natAbs ≤ 2 ^ 53) : Representable n := by
  rcases Nat.lt_or_ge n.natAbs (2 ^ 53) with hlt | hge
  · exact ⟨n, 0, hlt, by decide, by decide, by simp⟩
  · -- `2 ^ 53` itself is one over the exponent 53
    refine ⟨n.sign, 53, ?_, by decide, by decide, ?_⟩
    · rcases lt_trichotomy n 0 with h0 | h0 | h0
      · rw [Int.sign_eq_neg_one_of_neg h0]
        decide
      · rw [h0]
        decide
      · rw [Int.sign_eq_one_of_pos h0]
        decide
    · have habs : (n.natAbs : ℤ) = 2 ^ 53 := by exact_mod_cast le_antisymm h hge
      have hn : n = n.sign * 2 ^ 53 := by rw [← habs, Int.sign_mul_natAbs]
      exact_mod_cast congrArg (Int.cast : ℤ → ℚ) hn

end MachineCloud.Binary64
