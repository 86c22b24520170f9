import MachineCloud.Proofs.Text.Utf8
import MachineCloud.Text.Percent

/-!
# Percent coding read back

A percent-coded text consists of unreserved characters and of escapes, which are `%` and two
hexadecimal digits (`isCoded_encodeChars`), so there is no `/` in it.  Decoding undoes the coding, for
every text (`decodeChars?_encodeChars`).
-/

namespace MachineCloud.Percent

/-! ## Coded texts -/

/-- The characters that stand for themselves. -/
def IsPlain (c : Char) : Prop := c.isAlphanum = true ∨ c ∈ ['-', '.', '_', '~']

instance instDecidableIsPlain (c : Char) : Decidable (IsPlain c) :=
  inferInstanceAs (Decidable (c.isAlphanum = true ∨ c ∈ ['-', '.', '_', '~']))

/-- The digits of an escape. -/
def escapeDigits : List Char := "0123456789ABCDEF".toList

/-- Texts of unreserved characters and escapes. -/
inductive IsCoded : List Char → Prop
  | nil : IsCoded []
  | plain {c : Char} {rest : List Char} (hc : IsPlain c) (hrest : IsCoded rest) :
      IsCoded (c :: rest)
  | escape {high low : Char} {rest : List Char} (hhigh : high ∈ escapeDigits)
      (hlow : low ∈ escapeDigits) (hrest : IsCoded rest) : IsCoded ('%' :: high :: low :: rest)

/-- No coded text has a slash in it. -/
theorem IsCoded.slash_notMem {cs : List Char} (h : IsCoded cs) : '/' ∉ cs := by
  have hdigits : '/' ∉ escapeDigits := by decide
  have hplain : ¬ IsPlain '/' := by decide
  induction h with
  | nil => exact List.not_mem_nil
  | plain hc _ ih =>
    intro hmem
    rcases List.mem_cons.mp hmem with rfl | hmem
    · exact hplain hc
    · exact ih hmem
  | escape hhigh hlow _ ih =>
    intro hmem
    rcases List.mem_cons.mp hmem with heq | hmem
    · exact absurd heq (by decide)
    rcases List.mem_cons.mp hmem with rfl | hmem
    · exact hdigits hhigh
    rcases List.mem_cons.mp hmem with rfl | hmem
    · exact hdigits hlow
    · exact ih hmem

/-! ## Bytes -/

theorem hexDigit_mem {n : Nat} (h : n < 16) : hexDigit n ∈ escapeDigits := by
  revert n
  decide

theorem hexValue?_hexDigit {n : Nat} (h : n < 16) : hexValue? (hexDigit n) = some n := by
  revert n
  decide

/-- The character of an unreserved byte. -/
theorem isPlain_of_isUnreserved {b : UInt8} (h : isUnreserved b = true) :
    IsPlain (Char.ofNat b.toNat) ∧ Char.ofNat b.toNat ≠ '%' ∧
      (Char.ofNat b.toNat).toNat = b.toNat ∧ b.toNat < 0x80 := by
  have hascii : b.toNat < 0x80 := by
    simp only [isUnreserved, Bool.or_eq_true, Bool.and_eq_true, decide_eq_true_eq] at h
    omega
  have hall : ∀ n < 0x80, isUnreserved (UInt8.ofNat n) = true →
      IsPlain (Char.ofNat n) ∧ Char.ofNat n ≠ '%' ∧ (Char.ofNat n).toNat = n := by
    decide
  obtain ⟨hplain, hpercent, hchar⟩ := hall b.toNat hascii (by rwa [UInt8.ofNat_toNat])
  exact ⟨hplain, hpercent, hchar, hascii⟩

/-- A character that is no `%` is read as its byte. -/
theorem decodeBytes?_cons {c : Char} (hc : c ≠ '%') (hascii : c.toNat < 0x80) (rest : List Char) :
    decodeBytes? (c :: rest) = (decodeBytes? rest).map (UInt8.ofNat c.toNat :: ·) := by
  rw [decodeBytes?]
  · rw [if_neg (by simp [hc, hascii])]
  · intro h l rest' heq
    exact absurd heq hc

/-- A byte is read off the front of whatever follows it. -/
theorem decodeBytes?_encodeByte (b : UInt8) (rest : List Char) :
    decodeBytes? (encodeByte b ++ rest) = (decodeBytes? rest).map (b :: ·) := by
  have hb := b.toNat_lt
  rw [encodeByte]
  split
  · next h =>
    obtain ⟨-, hpercent, hchar, hascii⟩ := isPlain_of_isUnreserved h
    rw [List.singleton_append, decodeBytes?_cons hpercent (by omega), hchar, UInt8.ofNat_toNat]
  · have hjoin : 16 * (b.toNat / 16) + b.toNat % 16 = b.toNat := by omega
    simp only [List.cons_append, List.nil_append, decodeBytes?,
      hexValue?_hexDigit (show b.toNat / 16 < 16 by omega),
      hexValue?_hexDigit (show b.toNat % 16 < 16 by omega), hjoin, UInt8.ofNat_toNat]

/-- The text of a byte is coded, whatever coded text follows it. -/
theorem IsCoded.encodeByte_append (b : UInt8) {rest : List Char} (h : IsCoded rest) :
    IsCoded (encodeByte b ++ rest) := by
  have hb := b.toNat_lt
  rw [encodeByte]
  split
  · next hplain => exact .plain (isPlain_of_isUnreserved hplain).1 h
  · exact .escape (hexDigit_mem (by omega)) (hexDigit_mem (by omega)) h

/-! ## Texts -/

/-- Decoding the texts of some bytes gives the bytes. -/
theorem decodeBytes?_flatMap (bs : Bytes) : decodeBytes? (bs.flatMap encodeByte) = some bs := by
  induction bs with
  | nil => rfl
  | cons b bs ih => rw [List.flatMap_cons, decodeBytes?_encodeByte, ih, Option.map_some]

/-- The text of a segment is coded. -/
theorem isCoded_encodeChars (cs : List Char) : IsCoded (encodeChars cs) := by
  rw [encodeChars]
  induction Utf8.encodeChars cs with
  | nil => exact .nil
  | cons b bs ih => exact .encodeByte_append b ih

/-- Decoding undoes the coding. -/
theorem decodeChars?_encodeChars (cs : List Char) : decodeChars? (encodeChars cs) = some cs := by
  rw [decodeChars?, encodeChars, decodeBytes?_flatMap, Option.bind_some,
    Utf8.decodeChars?_encodeChars]

end MachineCloud.Percent
