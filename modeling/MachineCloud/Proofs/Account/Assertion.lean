import MachineCloud.Proofs.Json.Printing
import MachineCloud.Proofs.KeyFlow.Exchange
import MachineCloud.Proofs.KeyFlow.Expiry
import MachineCloud.Proofs.Text.Unpadded
import Mathlib.Data.Rat.Floor

/-!
# What an assertion says

An assertion taken apart again: at the points, by base64, UTF-8 and JSON, it gives the header and the claims
that were meant, and the signature (`Assertion.Says`).  This holds for every identifier and every signature,
and so for the assertion that a key flow builds (`KeyFlow.buildAssertion_spec`).
-/

namespace MachineCloud

namespace Value

/-! ## Whole parts -/

/-- The whole part of a rational number, cut toward zero. -/
def wholePart (t : ℚ) : ℤ := if 0 ≤ t then ⌊t⌋ else ⌈t⌉

theorem wholePart_neg (t : ℚ) : wholePart (-t) = -wholePart t := by
  rcases lt_trichotomy t 0 with h | rfl | h
  · rw [wholePart, wholePart, if_pos (by linarith), if_neg (not_le.mpr h), Int.floor_neg]
  · simp [wholePart]
  · rw [wholePart, wholePart, if_neg (by linarith), if_pos h.le, Int.ceil_neg]

theorem wholePart_intCast (n : ℤ) : wholePart n = n := by
  rw [wholePart, Int.floor_intCast, Int.ceil_intCast, ite_self]

/-- The whole part of a quotient of natural numbers is their quotient without the remainder. -/
theorem wholePart_div (m d : ℕ) : wholePart (m / d) = (m / d : ℕ) := by
  rw [wholePart, if_pos (by positivity), Rat.floor_natCast_div_natCast, Int.natCast_ediv]

theorem abs_wholePart_le (t : ℚ) : |(wholePart t : ℚ)| ≤ |t| := by
  rw [wholePart]
  split
  · next h =>
    rw [abs_of_nonneg h, abs_of_nonneg (by exact_mod_cast Int.floor_nonneg.mpr h)]
    exact Int.floor_le t
  · next h =>
    have hneg : t ≤ 0 := (not_le.mp h).le
    rw [abs_of_nonpos hneg, abs_of_nonpos (by exact_mod_cast Int.ceil_nonpos.mpr hneg)]
    exact neg_le_neg (Int.le_ceil t)

theorem wholePart_signed (s : Bool) (t : ℚ) (n : ℕ) (h : wholePart t = n) :
    wholePart (if s then -t else t) = Binary64.signed s n := by
  cases s with
  | true => simp [wholePart_neg, h, Binary64.signed]
  | false => simp [h, Binary64.signed]

/-- A clock is cut to the whole part of what it stands for. -/
theorem Numeric.truncate_of_denotes {x : Numeric} {t : ℚ} (h : x.Denotes t) :
    x.truncate = .ok (wholePart t) := by
  obtain n | (⟨s, m, e⟩ | _ | _) := x
  · rw [show t = n from h, wholePart_intCast]
    rfl
  · have ht : t = if s then -((m : ℚ) * 2 ^ e) else (m : ℚ) * 2 ^ e := by
      rw [show t = (Binary64.signed s m : ℚ) * 2 ^ e from h, Binary64.cast_signed]
      split <;> simp
    simp only [truncate, Binary64.truncate]
    rcases le_or_gt 0 e with he | he
    · obtain ⟨k, rfl⟩ := Int.eq_ofNat_of_zero_le he
      have hwhole : wholePart ((m : ℚ) * 2 ^ (k : ℤ)) = (m * 2 ^ k : ℕ) := by
        rw [zpow_natCast]
        exact_mod_cast wholePart_intCast (m * 2 ^ k : ℕ)
      rw [if_pos he, ht, wholePart_signed s _ _ hwhole]
      rfl
    · obtain ⟨k, rfl⟩ := Int.exists_eq_neg_ofNat he.le
      have hwhole : wholePart ((m : ℚ) * 2 ^ (-(k : ℤ))) = (m / 2 ^ k : ℕ) := by
        rw [zpow_neg, zpow_natCast, ← div_eq_mul_inv]
        exact_mod_cast wholePart_div m (2 ^ k)
      rw [if_neg (not_le.mpr he), ht, wholePart_signed s _ _ hwhole]
      simp [Nat.pow_eq]
  · exact h.elim
  · exact h.elim

/-- The seconds of a clock in the range of binary64 numbers have not too many digits, and have not ten minutes
later either. -/
theorem length_toDigits_le {t : ℚ} (h : |t| < 2 ^ 1024) {n : ℤ} (hn : |n - wholePart t| ≤ 600) :
    (Nat.toDigits 10 n.natAbs).length ≤ Numeral.maxDigits := by
  have hcast : ((wholePart t).natAbs : ℚ) < (2 ^ 1024 : ℕ) := by
    rw [Nat.cast_natAbs, Int.cast_abs, Nat.cast_pow, Nat.cast_ofNat]
    exact (abs_wholePart_le t).trans_lt h
  have hwhole := Nat.cast_lt.mp hcast
  have hlt : n.natAbs < 2 ^ 1024 + 600 := by
    obtain ⟨hlow, hhigh⟩ := abs_le.mp hn
    generalize 2 ^ 1024 = bound at hwhole ⊢
    omega
  have hbound : 2 ^ 1024 + 600 ≤ 10 ^ Numeral.maxDigits := by decide +kernel
  exact (Nat.length_toDigits_le_iff (by norm_num) (by decide)).mpr (hlt.trans_le hbound)

end Value

namespace Account

open Value (wholePart)

/-! ## Segments -/

/-- That a segment, without its base64 and as UTF-8, is a JSON text that is read as a value. -/
def Reads (segment : List Char) (v : Value) : Prop :=
  ∃ bytes text, Base64.decodeUnpadded segment = some bytes ∧ Utf8.decode? bytes = some text ∧
    Json.read text = .ok v

/-- That an assertion consists of three segments, with a header that names the key, the claims of the
credentials under an identifier and for ten minutes from a time on, and a signature. -/
def Assertion.Says (a : Assertion) (c : Credentials) (identifier : String) (issuedAt : ℤ)
    (signature : Bytes) : Prop :=
  ∃ header claims last, a.chars.splitOn '.' = [header, claims, last] ∧
    (∀ x ∈ header ++ claims ++ last, Base64.IsUrlSafe x) ∧
    Reads header (.map [("alg", .str "RS512"), ("typ", .str "JWT"), ("kid", .str c.kid)]) ∧
    Reads claims (.map [("iss", .str c.iss), ("sub", .str c.sub), ("aud", .str c.aud),
      ("jti", .str identifier), ("iat", .int issuedAt), ("exp", .int (issuedAt + 600))]) ∧
    Base64.decodeUnpadded last = some signature

namespace Assertion

theorem reads_segment {v : Value} (h : v.IsExact) (hdepth : v.depth ≤ Json.maxDepth) : Reads (segment v) v := by
  refine ⟨_, String.ofList (Json.compact v), Base64.decodeUnpadded_encodeUnpadded _, ?_,
    Json.read_compact h hdepth⟩
  rw [Utf8.decode?_eq_some_iff, Utf8.encode, String.toList_ofList]

variable {c : Credentials} {identifier : String} {t : ℚ}

theorem reads_header : Reads (segment (header c)) (header c) := by
  refine reads_segment ?_ ?_
  · simp [header, Entries.keys]
  · simp [header, Value.depth, Value.depthEntries, Json.maxDepth]

theorem reads_claims (ht : |t| < 2 ^ 1024) :
    Reads (segment (claims c identifier (wholePart t))) (claims c identifier (wholePart t)) := by
  have hiat := Value.length_toDigits_le ht (n := wholePart t) (by simp)
  have hexp := Value.length_toDigits_le ht (n := wholePart t + assertionLifetime) (by simp [assertionLifetime])
  refine reads_segment ?_ ?_
  · simp [claims, Entries.keys, hiat, hexp]
  · simp [claims, Value.depth, Value.depthEntries, Json.maxDepth]

/-- What is signed and any signature make an assertion that says what was meant. -/
theorem says_signingInput (ht : |t| < 2 ^ 1024) (signature : Bytes) :
    Says ⟨signingInput c identifier (wholePart t), signature⟩ c identifier (wholePart t) signature := by
  refine ⟨segment (header c), segment (claims c identifier (wholePart t)), Base64.encodeUnpadded signature,
    ?_, ?_, reads_header, reads_claims ht, Base64.decodeUnpadded_encodeUnpadded signature⟩
  · have hchars : chars ⟨signingInput c identifier (wholePart t), signature⟩ = ['.'].intercalate
        [segment (header c), segment (claims c identifier (wholePart t)), Base64.encodeUnpadded signature] := by
      simp [chars, signingInput, List.intercalate]
    rw [hchars]
    exact List.splitOn_intercalate '.' (by simp [segment, Base64.point_notMem]) (List.cons_ne_nil _ _)
  · simp only [List.mem_append]
    rintro x ((hx | hx) | hx)
    all_goals exact Base64.isUrlSafe_of_mem _ hx

end Assertion

/-! ## Key flows -/

namespace KeyFlow

/-- The assertion that a key flow builds, once its identifier is drawn and signed. -/
theorem run_buildAssertion_of_sign {k : KeyFlow} {w : World} {now : ℤ} {signature : Bytes}
    (hclock : w.clock.truncate = .ok now) (hsign : Rsa.sign? k.signer (Utf8.encodeChars
      (Assertion.signingInput k.key.credentials (Action.identifier (w.drawn + 1)) now)) = some signature) :
    k.buildAssertion.run w =
      (.ok ⟨Assertion.signingInput k.key.credentials (Action.identifier (w.drawn + 1)) now, signature⟩,
        { w with drawn := w.drawn + 1 }) := by
  have hbuild : Assertion.build k.key.credentials (Rsa.sign? k.signer) (Action.identifier (w.drawn + 1)) now =
      some ⟨Assertion.signingInput k.key.credentials (Action.identifier (w.drawn + 1)) now, signature⟩ := by
    rw [Assertion.build, hsign, Option.map_some]
  simp [buildAssertion, Action.run_bind, hclock, hbuild]

/-- An assertion says what was meant, whatever the strings of the credentials, the clock, the identifier and
the signature are.  A key flow builds one whenever its key is long enough to sign, with the identifier that is
drawn and the signature of that very text. -/
theorem buildAssertion_spec (k : KeyFlow) (w : World) {t : ℚ} (hclock : w.clock.Denotes t)
    (ht : |t| < 2 ^ 1024) :
    (∀ identifier sign? signature, sign? (Utf8.encodeChars
        (Assertion.signingInput k.key.credentials identifier (wholePart t))) = some signature →
      ∃ a, Assertion.build k.key.credentials sign? identifier (wholePart t) = some a ∧
        a.Says k.key.credentials identifier (wholePart t) signature) ∧
    (k.CanSign → ∃ a signature, k.buildAssertion.run w = (.ok a, { w with drawn := w.drawn + 1 }) ∧
      Rsa.sign? k.signer (Utf8.encodeChars a.signed) = some signature ∧
      a.Says k.key.credentials (Action.identifier (w.drawn + 1)) (wholePart t) signature) := by
  constructor
  · intro identifier sign? signature hsign
    refine ⟨_, ?_, Assertion.says_signingInput ht signature⟩
    rw [Assertion.build, hsign, Option.map_some]
  · intro hlong
    have hsome := (sign?_isSome_iff k (Utf8.encodeChars
      (Assertion.signingInput k.key.credentials (Action.identifier (w.drawn + 1)) (wholePart t)))).mpr hlong
    obtain ⟨signature, hsign⟩ := Option.isSome_iff_exists.mp hsome
    exact ⟨_, signature, run_buildAssertion_of_sign (Value.Numeric.truncate_of_denotes hclock) hsign, hsign,
      Assertion.says_signingInput ht signature⟩

/-- A key flow whose strings need every kind of escape. -/
def escapedFlow : KeyFlow where
  key :=
    { id := "k-1", publicKey := "p-1", keyType := none, keyAlgorithm := none, validUntil := none,
      credentials := ⟨"\"kid\"\\", "iss\n\x01", "süb", "𝔞𝔲𝔡", "pem"⟩ }
  signer := ⟨Nat.pow 2 1023, 3, 1, 1, 1, 1, 1, 1⟩
  tokenEndpoint := "https://token"

/-- Between two seconds, with a signature of one byte and with its own. -/
theorem buildAssertion_spec_of_escapes :
    let w : World := { clock := .float (.finite false 3 (-1)) }
    w.clock.Denotes (3 / 2) ∧ |(3 / 2 : ℚ)| < 2 ^ 1024 ∧ escapedFlow.CanSign ∧
      (∃ a, Assertion.build escapedFlow.key.credentials (fun _ => some [0xFF]) "\uFEFFjti" 1 = some a ∧
        a.Says escapedFlow.key.credentials "\uFEFFjti" 1 [0xFF]) ∧
      ∃ a signature, escapedFlow.buildAssertion.run w = (.ok a, { w with drawn := 1 }) ∧
        a.Says escapedFlow.key.credentials "00000000-0000-4000-8000-000000000001" 1 signature := by
  intro w
  have hclock : w.clock.Denotes (3 / 2) := by
    change (3 / 2 : ℚ) = (Binary64.signed false 3 : ℚ) * 2 ^ (-1 : ℤ)
    norm_num [Binary64.signed]
  have ht : |(3 / 2 : ℚ)| < 2 ^ 1024 := by
    rw [abs_of_pos (by norm_num)]
    exact lt_of_lt_of_le (by norm_num) (le_self_pow₀ one_le_two (by norm_num) : (2 : ℚ) ≤ 2 ^ 1024)
  have hlong : escapedFlow.CanSign := by decide +kernel
  have hwhole : wholePart (3 / 2) = 1 := by
    rw [wholePart]
    norm_num
  have hdrawn : Action.identifier (w.drawn + 1) = "00000000-0000-4000-8000-000000000001" := by
    decide +kernel
  obtain ⟨hany, hown⟩ := buildAssertion_spec escapedFlow w hclock ht
  rw [hwhole] at hany hown
  rw [hdrawn] at hown
  obtain ⟨a, signature, hrun, -, hsays⟩ := hown hlong
  exact ⟨hclock, ht, hlong, hany _ _ _ rfl, a, signature, hrun, hsays⟩

end KeyFlow

end Account

end MachineCloud
