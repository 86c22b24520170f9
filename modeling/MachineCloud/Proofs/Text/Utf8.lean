import MachineCloud.Proofs.Lists
import MachineCloud.Text.Utf8

/-!
# UTF-8 read back

The strict reader undoes the writer (`decodeChars?_encodeChars`).  A character is read off the front of
whatever follows it (`next_encodeChar`), so its bytes never run into those of the next one.  Different
texts have different bytes (`encodeChars_inj`), and nothing else than the bytes of a text is taken for
one (`decode?_eq_some_iff`).
-/

namespace MachineCloud.Utf8

/-! ## Bytes -/

theorem toNat_byte {n : Nat} (h : n < 256) : (byte n).toNat = n := by
  rw [byte, UInt8.toNat_ofNat']
  exact Nat.mod_eq_of_lt h

/-- A byte that fits is read onto the code point. -/
theorem follow_cons {n code least greatest : Nat} {b : UInt8} {rest : Bytes}
    (hleast : least ≤ b.toNat) (hgreatest : b.toNat ≤ greatest) :
    follow (n + 1) code least greatest (b :: rest) =
      follow n (code * 64 + (b.toNat - 0x80)) 0x80 0xBF rest := by
  rw [follow, if_pos ⟨hleast, hgreatest⟩]

/-- The last six bits of a code point, as the byte that carries them. -/
theorem follow_byte {n code least greatest low : Nat} {rest : Bytes} (hlow : low < 64)
    (hleast : least ≤ 0x80 + low) (hgreatest : 0x80 + low ≤ greatest) :
    follow (n + 1) code least greatest (byte (0x80 + low) :: rest) =
      follow n (code * 64 + low) 0x80 0xBF rest := by
  have hbyte : (byte (0x80 + low)).toNat = 0x80 + low := toNat_byte (by omega)
  rw [follow_cons (by omega) (by omega), hbyte, Nat.add_sub_cancel_left]

/-- A byte that starts a character of several bytes leaves the rest to those that follow. -/
theorem next_of_lead {first n high least greatest : Nat} {rest : Bytes} (hbyte : first < 256)
    (hlead : lead? first = some ⟨n, high, least, greatest⟩) (hascii : 0x80 ≤ first) :
    next (byte first) rest = follow n high least greatest rest := by
  rw [next, toNat_byte hbyte, if_neg (Nat.not_lt.mpr hascii), hlead]

/-! ## What a first byte starts -/

theorem lead?_two {high : Nat} (hleast : 2 ≤ high) (hgreatest : high < 32) :
    lead? (0xC0 + high) = some ⟨1, high, 0x80, 0xBF⟩ := by
  rw [lead?, if_neg (by omega), if_pos (by omega), Nat.add_sub_cancel_left]

theorem lead?_three {high : Nat} (hgreatest : high < 16) :
    lead? (0xE0 + high) =
      some ⟨2, high, if high = 0 then 0xA0 else 0x80, if high = 0xD then 0x9F else 0xBF⟩ := by
  grind [lead?]

theorem lead?_four {high : Nat} (hgreatest : high < 5) :
    lead? (0xF0 + high) =
      some ⟨3, high, if high = 0 then 0x90 else 0x80, if high = 4 then 0x8F else 0xBF⟩ := by
  grind [lead?]

/-! ## Characters -/

/-- A character's code point is none of the surrogates, and at most U+10FFFF. -/
theorem toNat_lt_or (c : Char) : c.toNat < 0xD800 ∨ 0xDFFF < c.toNat ∧ c.toNat < 0x110000 := c.valid

/-- A character is read off the front of whatever follows its bytes. -/
theorem next_encodeChar (c : Char) (rest : Bytes) :
    ∃ first more, encodeChar c = first :: more ∧ next first (more ++ rest) = (some c, rest) := by
  have hvalid := toNat_lt_or c
  have hc : Char.ofNat c.toNat = c := Char.ofNat_toNat c
  generalize hn : c.toNat = n at hvalid hc
  rw [encodeChar, hn]
  by_cases hone : n < 0x80
  · refine ⟨byte n, [], by rw [if_pos hone], ?_⟩
    rw [next, toNat_byte (by omega), if_pos hone, hc]
    rfl
  by_cases htwo : n < 0x800
  · refine ⟨_, _, by rw [if_neg hone, if_pos htwo], ?_⟩
    rw [next_of_lead (by omega) (lead?_two (by omega) (by omega)) (by omega)]
    rw [List.cons_append, List.nil_append, follow_byte (by omega) (by omega) (by omega)]
    have hcode : n / 64 * 64 + n % 64 = n := by omega
    rw [follow, hcode, hc]
  by_cases hthree : n < 0x10000
  · refine ⟨_, _, by rw [if_neg hone, if_neg htwo, if_pos hthree], ?_⟩
    rw [next_of_lead (by omega) (lead?_three (by omega)) (by omega)]
    -- the bounds keep out overlong forms and surrogates, which no character has
    rw [List.cons_append, List.cons_append, List.nil_append,
      follow_byte (by omega) (by split <;> omega) (by split <;> omega),
      follow_byte (by omega) (by omega) (by omega)]
    have hcode : (n / 4096 * 64 + n / 64 % 64) * 64 + n % 64 = n := by omega
    rw [follow, hcode, hc]
  · refine ⟨_, _, by rw [if_neg hone, if_neg htwo, if_neg hthree], ?_⟩
    rw [next_of_lead (by omega) (lead?_four (by omega)) (by omega)]
    -- here they keep out overlong forms and what lies above U+10FFFF
    rw [List.cons_append, List.cons_append, List.cons_append, List.nil_append,
      follow_byte (by omega) (by split <;> omega) (by split <;> omega),
      follow_byte (by omega) (by omega) (by omega), follow_byte (by omega) (by omega) (by omega)]
    have hcode : ((n / 262144 * 64 + n / 4096 % 64) * 64 + n / 64 % 64) * 64 + n % 64 = n := by
      omega
    rw [follow, hcode, hc]

/-- A character that is not ASCII has no ASCII byte. -/
theorem le_toNat_of_mem_encodeChar {c : Char} (h : 0x80 ≤ c.toNat) {b : UInt8}
    (hb : b ∈ encodeChar c) : 0x80 ≤ b.toNat := by
  have hvalid := toNat_lt_or c
  rw [encodeChar, if_neg (by omega)] at hb
  generalize c.toNat = n at h hvalid hb
  split at hb
  · simp only [List.mem_cons, List.not_mem_nil, or_false] at hb
    rcases hb with rfl | rfl <;> rw [toNat_byte (by omega)] <;> omega
  · split at hb
    · simp only [List.mem_cons, List.not_mem_nil, or_false] at hb
      rcases hb with rfl | rfl | rfl <;> rw [toNat_byte (by omega)] <;> omega
    · simp only [List.mem_cons, List.not_mem_nil, or_false] at hb
      rcases hb with rfl | rfl | rfl | rfl <;> rw [toNat_byte (by omega)] <;> omega

/-! ## Texts -/

/-- The pieces of a text's bytes are its characters. -/
theorem pieces_encodeChars (cs : List Char) : pieces (encodeChars cs) = cs.map some := by
  induction cs with
  | nil => rw [encodeChars, List.flatMap_nil, pieces, List.map_nil]
  | cons c cs ih =>
    obtain ⟨first, more, hbytes, hnext⟩ := next_encodeChar c (encodeChars cs)
    have hsplit : encodeChars (c :: cs) = first :: (more ++ encodeChars cs) := by
      rw [encodeChars, List.flatMap_cons, hbytes, List.cons_append]
      rfl
    rw [hsplit, pieces, hnext, ih, List.map_cons]

/-- The strict reader undoes the writer. -/
theorem decodeChars?_encodeChars (cs : List Char) : decodeChars? (encodeChars cs) = some cs := by
  have hread : (cs.map some).mapM id = pure (cs.map id) := by
    rw [List.mapM_map]
    exact List.mapM_pure
  rw [decodeChars?, pieces_encodeChars, hread, List.map_id]
  rfl

/-- Different texts have different bytes. -/
theorem encodeChars_inj {cs ds : List Char} (h : encodeChars cs = encodeChars ds) : cs = ds := by
  have hread := congrArg decodeChars? h
  rwa [decodeChars?_encodeChars, decodeChars?_encodeChars, Option.some.injEq] at hread

/-! ## Nothing else is taken -/

/-- Where the reader goes on it takes a byte within the bounds. -/
theorem exists_cons_of_follow {n code least greatest : Nat} {bs more : Bytes} {c : Char}
    (h : follow (n + 1) code least greatest bs = (some c, more)) :
    ∃ b rest, bs = b :: rest ∧ least ≤ b.toNat ∧ b.toNat ≤ greatest ∧
      follow n (code * 64 + (b.toNat - 0x80)) 0x80 0xBF rest = (some c, more) := by
  cases bs with
  | nil =>
    rw [follow] at h
    cases h
  | cons b rest =>
    rw [follow] at h
    split at h
    · next hbounds => exact ⟨b, rest, rfl, hbounds.1, hbounds.2, h⟩
    · cases h

/-- Where no byte is left to read, the code point is that of the character. -/
theorem eq_of_follow_zero {code least greatest : Nat} {bs more : Bytes} {c : Char}
    (h : follow 0 code least greatest bs = (some c, more)) : Char.ofNat code = c ∧ bs = more := by
  rw [follow, Prod.mk.injEq, Option.some.injEq] at h
  exact h

/-- What starts a character of several bytes: how many follow, and that the bounds of the first of them
keep out overlong forms, surrogates and what lies above U+10FFFF. -/
inductive Starts : Nat → Lead → Prop
  | two {high : Nat} (hshort : 2 ≤ high) (hhigh : high < 32) :
      Starts (0xC0 + high) ⟨1, high, 0x80, 0xBF⟩
  | three {high least greatest : Nat} (hhigh : high < 16) (hleast : 0x80 ≤ least)
      (hgreatest : greatest ≤ 0xBF) (hshort : high = 0 → 0xA0 ≤ least)
      (hsurrogate : high = 0xD → greatest ≤ 0x9F) :
      Starts (0xE0 + high) ⟨2, high, least, greatest⟩
  | four {high least greatest : Nat} (hhigh : high < 5) (hleast : 0x80 ≤ least)
      (hgreatest : greatest ≤ 0xBF) (hshort : high = 0 → 0x90 ≤ least)
      (hlarge : high = 4 → greatest ≤ 0x8F) :
      Starts (0xF0 + high) ⟨3, high, least, greatest⟩

theorem starts_of_lead? {b : Nat} {l : Lead} (h : lead? b = some l) : Starts b l := by
  by_cases htwo : b < 0xE0
  · have hleast : 0xC2 ≤ b := Nat.le_of_not_lt fun hlt => by
      rw [lead?, if_pos hlt] at h
      cases h
    obtain ⟨high, rfl⟩ := Nat.exists_eq_add_of_le (show 0xC0 ≤ b by omega)
    cases (lead?_two (by omega) (by omega)).symm.trans h
    exact .two (by omega) (by omega)
  by_cases hthree : b < 0xF0
  · obtain ⟨high, rfl⟩ := Nat.exists_eq_add_of_le (show 0xE0 ≤ b by omega)
    cases (lead?_three (by omega)).symm.trans h
    exact .three (by omega) (by split <;> omega) (by split <;> omega) (by rintro rfl; decide)
      (by rintro rfl; decide)
  · have hgreatest : b ≤ 0xF4 := Nat.le_of_not_lt fun hlt => by
      have hnone : lead? b = none := by grind [lead?]
      cases hnone.symm.trans h
    obtain ⟨high, rfl⟩ := Nat.exists_eq_add_of_le (show 0xF0 ≤ b by omega)
    cases (lead?_four (by omega)).symm.trans h
    exact .four (by omega) (by split <;> omega) (by split <;> omega) (by rintro rfl; decide)
      (by rintro rfl; decide)

theorem byte_of_toNat {n : Nat} {b : UInt8} (h : n = b.toNat) : byte n = b := by
  rw [h, byte, UInt8.ofNat_toNat]

/-- A code point that is no surrogate and at most U+10FFFF is that of its character. -/
theorem toNat_ofNat {n : Nat} (h : n < 0xD800 ∨ 0xDFFF < n ∧ n < 0x110000) :
    (Char.ofNat n).toNat = n := by
  rw [Char.ofNat, dif_pos h]
  exact UInt32.toNat_ofNatLT

/-- What a character of several bytes is read off are its bytes. -/
theorem cons_eq_of_follow {first : Nat} {l : Lead} {b : UInt8} {rest more : Bytes} {c : Char}
    (hb : b.toNat = first) (hstarts : Starts first l)
    (h : follow l.following l.high l.least l.greatest rest = (some c, more)) :
    b :: rest = encodeChar c ++ more := by
  cases hstarts with
  | @two high hshort hhigh =>
    obtain ⟨b₁, rest, rfl, hleast₁, hgreatest₁, h⟩ := exists_cons_of_follow h
    obtain ⟨rfl, rfl⟩ := eq_of_follow_zero h
    dsimp only at hleast₁ hgreatest₁ ⊢
    have hcode := toNat_ofNat (n := high * 64 + (b₁.toNat - 0x80)) (.inl (by omega))
    rw [encodeChar, hcode, if_neg (by omega), if_pos (by omega)]
    rw [byte_of_toNat (b := b) (by omega), byte_of_toNat (b := b₁) (by omega)]
    rfl
  | @three high least greatest hhigh hleast hgreatest hshort hsurrogate =>
    obtain ⟨b₁, rest, rfl, hleast₁, hgreatest₁, h⟩ := exists_cons_of_follow h
    obtain ⟨b₂, rest, rfl, hleast₂, hgreatest₂, h⟩ := exists_cons_of_follow h
    obtain ⟨rfl, rfl⟩ := eq_of_follow_zero h
    dsimp only at hleast₁ hgreatest₁ ⊢
    have hcode := toNat_ofNat
      (n := (high * 64 + (b₁.toNat - 0x80)) * 64 + (b₂.toNat - 0x80)) (by omega)
    rw [encodeChar, hcode, if_neg (by omega), if_neg (by omega), if_pos (by omega)]
    rw [byte_of_toNat (b := b) (by omega), byte_of_toNat (b := b₁) (by omega),
      byte_of_toNat (b := b₂) (by omega)]
    rfl
  | @four high least greatest hhigh hleast hgreatest hshort hlarge =>
    obtain ⟨b₁, rest, rfl, hleast₁, hgreatest₁, h⟩ := exists_cons_of_follow h
    obtain ⟨b₂, rest, rfl, hleast₂, hgreatest₂, h⟩ := exists_cons_of_follow h
    obtain ⟨b₃, rest, rfl, hleast₃, hgreatest₃, h⟩ := exists_cons_of_follow h
    obtain ⟨rfl, rfl⟩ := eq_of_follow_zero h
    dsimp only at hleast₁ hgreatest₁ ⊢
    have hcode := toNat_ofNat
      (n := ((high * 64 + (b₁.toNat - 0x80)) * 64 + (b₂.toNat - 0x80)) * 64 +
        (b₃.toNat - 0x80)) (by omega)
    rw [encodeChar, hcode, if_neg (by omega), if_neg (by omega), if_neg (by omega)]
    rw [byte_of_toNat (b := b) (by omega), byte_of_toNat (b := b₁) (by omega),
      byte_of_toNat (b := b₂) (by omega), byte_of_toNat (b := b₃) (by omega)]
    rfl

/-- What a character is read off are its bytes. -/
theorem cons_eq_of_next {b : UInt8} {rest more : Bytes} {c : Char}
    (h : next b rest = (some c, more)) : b :: rest = encodeChar c ++ more := by
  rw [next] at h
  by_cases hascii : b.toNat < 0x80
  · rw [if_pos hascii] at h
    cases h
    have hcode := toNat_ofNat (n := b.toNat) (.inl (by omega))
    rw [encodeChar, hcode, if_pos hascii, byte_of_toNat rfl]
    rfl
  · rw [if_neg hascii] at h
    cases hlead : lead? b.toNat with
    | none =>
      rw [hlead] at h
      cases h
    | some l =>
      rw [hlead] at h
      exact cons_eq_of_follow rfl (starts_of_lead? hlead) h

/-- Bytes whose pieces are characters are the bytes of these. -/
theorem eq_encodeChars_of_pieces {bs : Bytes} {cs : List Char} (h : pieces bs = cs.map some) :
    bs = encodeChars cs := by
  induction cs generalizing bs with
  | nil =>
    cases bs with
    | nil => rfl
    | cons b rest =>
      rw [pieces] at h
      cases h
  | cons c cs ih =>
    cases bs with
    | nil =>
      rw [pieces] at h
      cases h
    | cons b rest =>
      rw [pieces, List.map_cons, List.cons.injEq] at h
      obtain ⟨hfirst, hrest⟩ := h
      have hnext : next b rest = (some c, (next b rest).2) := Prod.ext hfirst rfl
      rw [cons_eq_of_next hnext, ih hrest]
      rfl

/-- The strict reader takes the bytes of a text for this text, and nothing else. -/
theorem decode?_eq_some_iff {bs : Bytes} {s : String} : decode? bs = some s ↔ bs = encode s := by
  rw [decode?, Option.map_eq_some_iff]
  constructor
  · rintro ⟨cs, hcs, rfl⟩
    rw [encode, String.toList_ofList]
    exact eq_encodeChars_of_pieces (eq_map_some_of_mapM hcs)
  · rintro rfl
    exact ⟨s.toList, decodeChars?_encodeChars s.toList, String.ofList_toList⟩

end MachineCloud.Utf8
