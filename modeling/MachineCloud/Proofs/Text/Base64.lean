import MachineCloud.Attribute
import MachineCloud.Proofs.Interspersed
import MachineCloud.Proofs.Text.Utf8

/-!
# Base64 read back

The lenient reader undoes the encoder, for byte strings of every length (`decodeLenient_written`).  It
takes the characters of a group one after the other, so the proof follows the encoder's groups of three
bytes, and the last group's padding is what stops it.  Characters that base64 has no use for may stand
anywhere in between (`decodeLenient_of_spells`).
-/

namespace MachineCloud

namespace Base64

/-! ## Sextets -/

/-- A sextet's character is one byte, which stands for the sextet again and is no padding. -/
theorem sextet?_char {n : Nat} (h : n < 64) :
    Utf8.encodeChar (Alphabet.standard.char n) = [Utf8.byte (Alphabet.standard.char n).toNat] ∧
      Utf8.byte (Alphabet.standard.char n).toNat ≠ 0x3D ∧
      sextet? (Utf8.byte (Alphabet.standard.char n).toNat) = some n := by
  revert n
  decide

/-- Reading a sextet's character pushes the sextet. -/
theorem decodeFrom_char (c : Cursor) {n : Nat} (h : n < 64) (rest : Bytes) :
    decodeFrom c (Utf8.encodeChar (Alphabet.standard.char n) ++ rest) =
      match c.push n with
      | (c', none) => decodeFrom c' rest
      | (c', some x) => (decodeFrom c' rest).map (x :: ·) := by
  obtain ⟨hchar, hpad, hsextet⟩ := sextet?_char h
  rw [hchar, List.singleton_append, decodeFrom, if_neg hpad]
  rcases hpush : c.push n with ⟨c', _ | x⟩ <;> simp only [hsextet, hpush]

/-- A byte that is put together again. -/
theorem ofNat_eq_of_toNat {n : Nat} {b : UInt8} (h : n = b.toNat) : UInt8.ofNat n = b := by
  rw [h, UInt8.ofNat_toNat]

/-! ## Groups -/

/-- The bytes of the encoding, as the reader gets them. -/
def written (bs : Bytes) : Bytes := Utf8.encodeChars (encode .standard bs)

/-- The reader gives the three bytes of a whole group and goes on behind it. -/
theorem decodeFrom_group (x y z : UInt8) (rest : Bytes) :
    decodeFrom {} (written (x :: y :: z :: rest)) =
      (decodeFrom {} (written rest)).map fun bs => x :: y :: z :: bs := by
  have hx := x.toNat_lt
  have hy := y.toNat_lt
  have hz := z.toNat_lt
  have hfirst : UInt8.ofNat (x.toNat / 4 * 4 + (x.toNat % 4 * 16 + y.toNat / 16) / 16) = x :=
    ofNat_eq_of_toNat (by omega)
  have hsecond : UInt8.ofNat ((x.toNat % 4 * 16 + y.toNat / 16) % 16 * 16 +
      (y.toNat % 16 * 4 + z.toNat / 64) / 4) = y := ofNat_eq_of_toNat (by omega)
  have hthird : UInt8.ofNat ((y.toNat % 16 * 4 + z.toNat / 64) % 4 * 64 + z.toNat % 64) = z :=
    ofNat_eq_of_toNat (by omega)
  simp only [written, encode, Utf8.encodeChars, List.flatMap_cons]
  simp (disch := omega) only [decodeFrom_char, Cursor.push, hfirst, hsecond, hthird, Option.map_map]
  rfl

/-- Two paddings behind two sextets end the reading. -/
theorem decodeFrom_twoPads (x : UInt8) : decodeFrom {} (written [x]) = some [x] := by
  have hx := x.toNat_lt
  have hbyte : UInt8.ofNat (x.toNat / 4 * 4 + x.toNat % 4 * 16 / 16) = x :=
    ofNat_eq_of_toNat (by omega)
  simp only [written, encode, Utf8.encodeChars, List.flatMap_cons]
  simp (disch := omega) only [decodeFrom_char, Cursor.push, hbyte]
  rfl

/-- So does one padding behind three sextets. -/
theorem decodeFrom_onePad (x y : UInt8) : decodeFrom {} (written [x, y]) = some [x, y] := by
  have hx := x.toNat_lt
  have hy := y.toNat_lt
  have hfirst : UInt8.ofNat (x.toNat / 4 * 4 + (x.toNat % 4 * 16 + y.toNat / 16) / 16) = x :=
    ofNat_eq_of_toNat (by omega)
  have hsecond : UInt8.ofNat ((x.toNat % 4 * 16 + y.toNat / 16) % 16 * 16 +
      y.toNat % 16 * 4 / 4) = y := ofNat_eq_of_toNat (by omega)
  simp only [written, encode, Utf8.encodeChars, List.flatMap_cons]
  simp (disch := omega) only [decodeFrom_char, Cursor.push, hfirst, hsecond]
  rfl

/-! ## Byte strings and texts -/

/-- The lenient reader undoes the encoder. -/
theorem decodeLenient_written (bs : Bytes) : decodeLenient (written bs) = some bs := by
  induction bs using encode.induct with
  | case1 => rfl
  | case2 x => exact decodeFrom_twoPads x
  | case3 x y => exact decodeFrom_onePad x y
  | case4 x y z rest ih =>
    rw [decodeLenient] at ih
    rw [decodeLenient, decodeFrom_group, ih, Option.map_some]

/-- Different byte strings have different encodings. -/
theorem encode_inj {bs cs : Bytes} (h : encode .standard bs = encode .standard cs) : bs = cs := by
  have hread : decodeLenient (written bs) = decodeLenient (written cs) := by
    rw [written, written, h]
  rwa [decodeLenient_written, decodeLenient_written, Option.some.injEq] at hread

/-! ## Foreign characters -/

/-- Whether a character is neither in the alphabet nor padding. -/
def IsForeign (c : Char) : Prop := c ≠ '=' ∧ ∀ n < 64, c ≠ Alphabet.standard.char n

instance : DecidablePred IsForeign := fun _ => instDecidableAnd

/-- Whether a byte is passed over. -/
def IsSkipped (b : UInt8) : Prop := b ≠ 0x3D ∧ sextet? b = none

/-- Whether a text is the encoding of some bytes, perhaps with foreign characters in it. -/
def Spells (bs : Bytes) (text : String) : Prop :=
  Interspersed IsForeign (encode .standard bs) text.toList

/-- The encoding itself, without any. -/
theorem Spells.encode (bs : Bytes) : Spells bs (String.ofList (encode .standard bs)) := by
  rw [Spells, String.toList_ofList]
  exact .refl _

theorem sextet?_lt {b : UInt8} {n : Nat} (h : sextet? b = some n) : n < 64 := by
  grind [sextet?]

/-- A sextet stands for one byte only. -/
theorem sextet?_inj {b b' : UInt8} {n : Nat} (h : sextet? b = some n) (h' : sextet? b' = some n) :
    b = b' := by
  apply UInt8.toNat_inj.mp
  grind [sextet?]

/-- The bytes of a foreign character are passed over. -/
theorem isSkipped_of_isForeign {c : Char} (h : IsForeign c) : ∀ b ∈ Utf8.encodeChar c, IsSkipped b := by
  intro b hb
  by_cases hascii : c.toNat < 0x80
  · have hchar : Utf8.encodeChar c = [Utf8.byte c.toNat] := by rw [Utf8.encodeChar, if_pos hascii]
    rw [hchar, List.mem_singleton] at hb
    subst hb
    -- a byte with a meaning is the one of a character with this meaning
    have hother (d : Char) (hd : Utf8.encodeChar d = [Utf8.byte c.toNat]) : c = d := by
      have hbytes : Utf8.encodeChars [c] = Utf8.encodeChars [d] := by
        simp only [Utf8.encodeChars, List.flatMap_singleton, hchar, hd]
      exact List.singleton_inj.mp (Utf8.encodeChars_inj hbytes)
    refine ⟨fun hpad => h.1 (hother '=' (by rw [hpad]; rfl)), ?_⟩
    rw [Option.eq_none_iff_forall_ne_some]
    intro n hn
    obtain ⟨hbyte, -, hsextet⟩ := sextet?_char (sextet?_lt hn)
    exact h.2 n (sextet?_lt hn) (hother _ (by rw [hbyte, sextet?_inj hn hsextet]))
  · have hlarge := Utf8.le_toNat_of_mem_encodeChar (Nat.not_lt.mp hascii) hb
    constructor
    · rintro rfl
      exact absurd hlarge (by decide)
    · grind [sextet?]

/-- The reader does not notice bytes that it passes over, wherever it stands. -/
theorem decodeFrom_of_interspersed {bs cs : Bytes} (h : Interspersed IsSkipped bs cs) (c : Cursor) :
    decodeFrom c cs = decodeFrom c bs := by
  induction h generalizing c with
  | nil => rfl
  | own _ ih => simp only [decodeFrom, ih]
  | other hskipped _ ih =>
    rw [decodeFrom, if_neg hskipped.1, hskipped.2]
    exact ih c

/-- A text with foreign characters in it is read as the bytes that it is the encoding of. -/
theorem decodeLenient_of_spells {bs : Bytes} {text : String} (h : Spells bs text) :
    decodeLenient (Utf8.encode text) = some bs := by
  have hbytes : Interspersed IsSkipped (written bs) (Utf8.encode text) :=
    h.flatMap fun _ => isSkipped_of_isForeign
  rw [decodeLenient, decodeFrom_of_interspersed hbytes]
  exact decodeLenient_written bs

end Base64

namespace Attribute

/-- Different texts have different encodings. -/
theorem encodeText_inj {s t : String} (h : encodeText s = encodeText t) : s = t := by
  have hbytes : Utf8.encode s = Utf8.encode t := by
    rw [encodeText, encodeText] at h
    exact Base64.encode_inj (String.ofList_injective h)
  exact String.toList_injective (Utf8.encodeChars_inj hbytes)

end Attribute

end MachineCloud
