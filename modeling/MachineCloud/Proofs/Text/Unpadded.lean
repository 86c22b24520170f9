import MachineCloud.Proofs.Text.Base64

/-!
# Base64 without padding

The URL-safe encoding stands for its bytes even without the padding: the length tells how much of it is
gone, and with the padding put back and the standard characters for 62 and 63 the reader gives the bytes
(`decodeUnpadded_encodeUnpadded`).
-/

namespace MachineCloud.Base64

/-- Letters and digits of ASCII, `-` and `_`. -/
def IsUrlSafe (c : Char) : Prop := c.isAlphanum = true ∨ c = '-' ∨ c = '_'

instance instDecidableIsUrlSafe (c : Char) : Decidable (IsUrlSafe c) :=
  inferInstanceAs (Decidable (_ ∨ _ ∨ _))

/-- A text with as much padding behind it as makes its groups of four whole. -/
def restorePadding (cs : List Char) : List Char :=
  cs ++ List.replicate ((4 - cs.length % 4) % 4) '='

/-- The character of the standard alphabet for one of the URL-safe alphabet. -/
def toStandard (c : Char) : Char := if c = '-' then '+' else if c = '_' then '/' else c

/-- The bytes that an unpadded text in the URL-safe alphabet stands for. -/
def decodeUnpadded (cs : List Char) : Option Bytes :=
  decodeLenient (Utf8.encodeChars ((restorePadding cs).map toStandard))

/-! ## Sextets -/

theorem urlSafe_char {n : Nat} (h : n < 64) :
    IsUrlSafe (Alphabet.urlSafe.char n) ∧ toStandard (Alphabet.urlSafe.char n) = Alphabet.standard.char n := by
  revert n
  decide

/-- The sextets of a byte string, of which the last one may be filled up with zeros. -/
def sextetsOf : Bytes → List Nat
  | [] => []
  | [x] => [x.toNat / 4, x.toNat % 4 * 16]
  | [x, y] => [x.toNat / 4, x.toNat % 4 * 16 + y.toNat / 16, y.toNat % 16 * 4]
  | x :: y :: z :: rest =>
    (x.toNat / 4) :: (x.toNat % 4 * 16 + y.toNat / 16) :: (y.toNat % 16 * 4 + z.toNat / 64) ::
      (z.toNat % 64) :: sextetsOf rest

variable (bs : Bytes)

theorem sextetsOf_lt : ∀ n ∈ sextetsOf bs, n < 64 := by
  induction bs using sextetsOf.induct with
  | case1 => exact List.forall_mem_nil _
  | case2 x =>
    have hx := x.toNat_lt
    simp only [sextetsOf, List.forall_mem_cons]
    exact ⟨by omega, by omega, List.forall_mem_nil _⟩
  | case3 x y =>
    have hx := x.toNat_lt
    have hy := y.toNat_lt
    simp only [sextetsOf, List.forall_mem_cons]
    exact ⟨by omega, by omega, by omega, List.forall_mem_nil _⟩
  | case4 x y z rest ih =>
    have hx := x.toNat_lt
    have hy := y.toNat_lt
    have hz := z.toNat_lt
    simp only [sextetsOf, List.forall_mem_cons]
    exact ⟨by omega, by omega, by omega, by omega, ih⟩

/-- An encoding is made of the sextets' characters, and of as much padding as these lack. -/
theorem encode_eq (a : Alphabet) : encode a bs = restorePadding ((sextetsOf bs).map a.char) := by
  induction bs using sextetsOf.induct with
  | case1 => simp [encode, sextetsOf, restorePadding]
  | case2 x => simp [encode, sextetsOf, restorePadding]
  | case3 x y => simp [encode, sextetsOf, restorePadding]
  | case4 x y z rest ih =>
    rw [encode, ih, sextetsOf]
    simp [restorePadding, Nat.add_assoc]

/-! ## The unpadded form -/

/-- No character of a sextet is taken for padding. -/
theorem encodeUnpadded_eq : encodeUnpadded bs = (sextetsOf bs).map Alphabet.urlSafe.char := by
  have hchars : ∀ c ∈ (sextetsOf bs).map Alphabet.urlSafe.char, c ≠ '=' := by
    rintro c hc rfl
    obtain ⟨n, hn, hchar⟩ := List.mem_map.mp hc
    have hsafe := (urlSafe_char (sextetsOf_lt bs n hn)).1
    rw [hchar] at hsafe
    revert hsafe
    decide
  rw [encodeUnpadded, encode_eq, restorePadding, List.filter_append,
    List.filter_eq_self.mpr (by simpa using hchars)]
  simp

theorem isUrlSafe_of_mem {c : Char} (h : c ∈ encodeUnpadded bs) : IsUrlSafe c := by
  rw [encodeUnpadded_eq] at h
  obtain ⟨n, hn, rfl⟩ := List.mem_map.mp h
  exact (urlSafe_char (sextetsOf_lt bs n hn)).1

/-- A point is in no encoding, and so can stand between two. -/
theorem point_notMem : '.' ∉ encodeUnpadded bs := fun h => absurd (isUrlSafe_of_mem bs h) (by decide)

/-- Unpadded texts are read back. -/
theorem decodeUnpadded_encodeUnpadded : decodeUnpadded (encodeUnpadded bs) = some bs := by
  have hchars : ((sextetsOf bs).map Alphabet.urlSafe.char).map toStandard =
      (sextetsOf bs).map Alphabet.standard.char := by
    rw [List.map_map]
    exact List.map_congr_left fun n hn => (urlSafe_char (sextetsOf_lt bs n hn)).2
  have hstandard : (restorePadding (encodeUnpadded bs)).map toStandard = encode .standard bs := by
    rw [encodeUnpadded_eq, encode_eq, restorePadding, List.map_append, hchars, List.map_replicate]
    simp [restorePadding, toStandard]
  rw [decodeUnpadded, hstandard]
  exact decodeLenient_written bs

end MachineCloud.Base64
