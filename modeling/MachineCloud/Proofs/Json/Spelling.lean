import MachineCloud.Json.Writer
import MachineCloud.Proofs.Json.Scalar

/-!
# Spellings of strings and integers

A character of a string has several spellings: as it is, in a short escape, in four hexadecimal digits, or
as the two halves of a surrogate pair.  Whatever the spelling, the reader gets the character
(`string_of_spells`), and the one that the writer chooses is a spelling in ASCII (`spells_escapeChar`).  An
integer is read off the digits that are written for it (`number_intChars`).
-/

namespace MachineCloud.Json

/-! ## Characters -/

/-- The spellings of a character in a string. -/
inductive SpellsChar : Char → List Char → Prop
  | plain {c : Char} (hprints : ' ' ≤ c) (hquote : c ≠ '"') (hbackslash : c ≠ '\\') : SpellsChar c [c]
  | short {e c : Char} (h : escape? e = some c) : SpellsChar c ['\\', e]
  | unit {c w x y z : Char} (h : hex4? w x y z = some c.toNat) : SpellsChar c ['\\', 'u', w, x, y, z]
  | pair {w x y z w' x' y' z' : Char} {high low : Nat} (hhigh : hex4? w x y z = some high)
      (hlow : hex4? w' x' y' z' = some low) (hishigh : Utf16.isHighSurrogate high = true)
      (hislow : Utf16.isLowSurrogate low = true) :
      SpellsChar (Utf16.joinSurrogates high low) ['\\', 'u', w, x, y, z, '\\', 'u', w', x', y', z']

/-- The spellings of the characters of a string. -/
inductive Spells : List Char → List Char → Prop
  | nil : Spells [] []
  | cons {c : Char} {cs spelling rest : List Char} (h : SpellsChar c spelling) (hrest : Spells cs rest) :
      Spells (c :: cs) (spelling ++ rest)

/-- No character is half a surrogate pair. -/
theorem isSurrogate_toNat (c : Char) :
    Utf16.isHighSurrogate c.toNat = false ∧ Utf16.isLowSurrogate c.toNat = false := by
  have hvalid : c.toNat < 0xD800 ∨ 0xDFFF < c.toNat ∧ c.toNat < 0x110000 := c.valid
  simp only [Utf16.isHighSurrogate, Utf16.isLowSurrogate, Bool.and_eq_false_iff, decide_eq_false_iff_not]
  omega

theorem unitChar_toNat (c : Char) : unitChar c.toNat = c := by
  obtain ⟨hhigh, hlow⟩ := isSurrogate_toNat c
  rw [unitChar, hhigh, hlow]
  exact Char.ofNat_toNat c

theorem escape?_ne_unit {e c : Char} (h : escape? e = some c) : e ≠ 'u' := by
  rintro rfl
  cases h

/-! ## Reading strings -/

section

variable {start acc tail : List Char} {c : Char}

theorem string_of_plain (hprints : ' ' ≤ c) (hquote : c ≠ '"') (hbackslash : c ≠ '\\') :
    string start acc (c :: tail) = string start (c :: acc) tail := by
  rw [string]
  · exact if_neg (Char.not_lt.mpr hprints)
  all_goals simp_all

theorem string_of_escape {e : Char} (h : escape? e = some c) :
    string start acc ('\\' :: e :: tail) = string start (c :: acc) tail := by
  rw [string]
  · rw [h]
  · exact escape?_ne_unit h

theorem string_of_unicodeEscape {cs : List Char} (h : unicodeEscape cs = .ok (c, tail)) :
    string start acc ('\\' :: 'u' :: cs) = string start (c :: acc) tail := by
  rw [string]
  split
  · next hescape => cases h.symm.trans hescape
  · next hescape =>
    cases h.symm.trans hescape
    rfl

theorem unicodeEscape_of_unit {w x y z : Char} (h : hex4? w x y z = some c.toNat) (htail : tail ≠ []) :
    unicodeEscape (w :: x :: y :: z :: tail) = .ok (c, tail) := by
  obtain ⟨d, rest, rfl⟩ := List.exists_cons_of_ne_nil htail
  simp only [unicodeEscape, h, (isSurrogate_toNat c).1, unitChar_toNat]
  rfl

theorem unicodeEscape_of_pair {w x y z w' x' y' z' : Char} {high low : Nat}
    (hhigh : hex4? w x y z = some high) (hlow : hex4? w' x' y' z' = some low)
    (hishigh : Utf16.isHighSurrogate high = true) (hislow : Utf16.isLowSurrogate low = true)
    (htail : tail ≠ []) :
    unicodeEscape (w :: x :: y :: z :: '\\' :: 'u' :: w' :: x' :: y' :: z' :: tail) =
      .ok (Utf16.joinSurrogates high low, tail) := by
  obtain ⟨d, rest, rfl⟩ := List.exists_cons_of_ne_nil htail
  simp only [unicodeEscape, lowSurrogate?, hhigh, hlow, hishigh, hislow, if_true]

/-- A spelling is read as its character, if something follows it. -/
theorem string_of_spellsChar {spelling : List Char} (h : SpellsChar c spelling) (htail : tail ≠ []) :
    string start acc (spelling ++ tail) = string start (c :: acc) tail := by
  cases h with
  | plain hprints hquote hbackslash => exact string_of_plain hprints hquote hbackslash
  | short h => exact string_of_escape h
  | unit h => exact string_of_unicodeEscape (unicodeEscape_of_unit h htail)
  | pair hhigh hlow hishigh hislow =>
    exact string_of_unicodeEscape (unicodeEscape_of_pair hhigh hlow hishigh hislow htail)

/-- A string is read off its spelling. -/
theorem string_of_spells {cs spelling : List Char} (h : Spells cs spelling) :
    string start acc (spelling ++ '"' :: tail) = .ok (String.ofList (acc.reverse ++ cs), tail) := by
  induction h generalizing acc with
  | nil =>
    rw [List.nil_append, string, List.append_nil]
  | @cons c cs spelling rest h _ ih =>
    have hmore : rest ++ '"' :: tail ≠ [] := List.append_ne_nil_of_right_ne_nil _ (List.cons_ne_nil _ _)
    rw [List.append_assoc, string_of_spellsChar h hmore, ih, List.reverse_cons, List.append_assoc]
    rfl

end

/-! ## The writer's spelling -/

theorem hexValue?_hexDigit {n : Nat} (h : n < 16) : hexValue? (Text.hexDigit n) = some n := by
  revert n
  decide

/-- Four hexadecimal digits are read as the number that they are written for. -/
theorem hex4?_hexDigits {n : Nat} (h : n < 0x10000) :
    hex4? (Text.hexDigit (n / 16 / 16 / 16 % 16)) (Text.hexDigit (n / 16 / 16 % 16))
      (Text.hexDigit (n / 16 % 16)) (Text.hexDigit (n % 16)) = some n := by
  have hbase : 0 < 16 := by decide
  simp only [hex4?, hexValue?_hexDigit (Nat.mod_lt _ hbase), Option.bind_eq_bind, Option.bind_some,
    Option.pure_def, Option.some.injEq]
  omega

theorem spellsChar_unitEscape {c : Char} (h : c.toNat < 0x10000) : SpellsChar c (unitEscape c.toNat) :=
  .unit (hex4?_hexDigits h)

theorem joinSurrogates_halves {c : Char} (h : 0x10000 ≤ c.toNat) :
    Utf16.joinSurrogates (0xD800 + (c.toNat - 0x10000) / 0x400) (0xDC00 + (c.toNat - 0x10000) % 0x400) =
      c := by
  have hcode : 0x10000 + (0xD800 + (c.toNat - 0x10000) / 0x400 - 0xD800) * 0x400 +
      (0xDC00 + (c.toNat - 0x10000) % 0x400 - 0xDC00) = c.toNat := by omega
  rw [Utf16.joinSurrogates, hcode, Char.ofNat_toNat]

theorem spellsChar_surrogates {c : Char} (h : 0x10000 ≤ c.toNat) :
    SpellsChar c (unitEscape (0xD800 + (c.toNat - 0x10000) / 0x400) ++
      unitEscape (0xDC00 + (c.toNat - 0x10000) % 0x400)) := by
  have hvalid : c.toNat < 0xD800 ∨ 0xDFFF < c.toNat ∧ c.toNat < 0x110000 := c.valid
  have hpair := SpellsChar.pair
    (hex4?_hexDigits (n := 0xD800 + (c.toNat - 0x10000) / 0x400) (by omega))
    (hex4?_hexDigits (n := 0xDC00 + (c.toNat - 0x10000) % 0x400) (by omega))
    (by simp only [Utf16.isHighSurrogate, Bool.and_eq_true, decide_eq_true_eq]; omega)
    (by simp only [Utf16.isLowSurrogate, Bool.and_eq_true, decide_eq_true_eq]; omega)
  rwa [joinSurrogates_halves h] at hpair

/-- What the writer makes of a character is a spelling of it. -/
theorem spellsChar_escapeChar (c : Char) : SpellsChar c (escapeChar c) := by
  unfold escapeChar
  split_ifs with hquote hbackslash _ _ _ _ _ hprints hbelow
  -- the seven characters with a short escape come last
  rotate_left 7
  · exact .plain hprints.1 hquote hbackslash
  · exact spellsChar_unitEscape hbelow
  · exact spellsChar_surrogates (Nat.not_lt.mp hbelow)
  all_goals
    subst c
    exact .short rfl

theorem spells_flatMap (cs : List Char) : Spells cs (cs.flatMap escapeChar) := by
  induction cs with
  | nil => exact .nil
  | cons c cs ih => exact .cons (spellsChar_escapeChar c) ih

/-! ### In ASCII -/

/-- Whether a text is in ASCII. -/
def IsAscii (cs : List Char) : Prop := ∀ c ∈ cs, c.toNat < 0x80

instance instDecidableIsAscii (cs : List Char) : Decidable (IsAscii cs) := List.decidableBAll _ cs

theorem isAscii_append {cs ds : List Char} : IsAscii (cs ++ ds) ↔ IsAscii cs ∧ IsAscii ds :=
  List.forall_mem_append

theorem isAscii_cons {c : Char} {cs : List Char} : IsAscii (c :: cs) ↔ c.toNat < 0x80 ∧ IsAscii cs :=
  List.forall_mem_cons

theorem toNat_hexDigit_lt {n : Nat} (h : n < 16) : (Text.hexDigit n).toNat < 0x80 := by
  revert n
  decide

theorem isAscii_unitEscape (n : Nat) : IsAscii (unitEscape n) := by
  have hdigits (width n : Nat) : IsAscii (Text.hexChars width n) := by
    induction width generalizing n with
    | zero => exact List.forall_mem_nil _
    | succ width ih =>
      refine isAscii_append.mpr ⟨ih _, List.forall_mem_singleton.mpr ?_⟩
      exact toNat_hexDigit_lt (Nat.mod_lt _ (by decide))
  exact isAscii_cons.mpr ⟨by decide, isAscii_cons.mpr ⟨by decide, hdigits 4 n⟩⟩

/-- What the writer makes of a character is in ASCII. -/
theorem isAscii_escapeChar (c : Char) : IsAscii (escapeChar c) := by
  unfold escapeChar
  split_ifs with _ _ _ _ _ _ _ hprints
  rotate_left 7
  · have htilde : c.toNat ≤ '~'.toNat := hprints.2
    exact List.forall_mem_singleton.mpr (htilde.trans_lt (by decide))
  · exact isAscii_unitEscape _
  · exact isAscii_append.mpr ⟨isAscii_unitEscape _, isAscii_unitEscape _⟩
  all_goals decide

theorem isAscii_stringChars (s : String) : IsAscii (stringChars s) := by
  refine isAscii_cons.mpr ⟨by decide, isAscii_append.mpr ⟨?_, List.forall_mem_singleton.mpr (by decide)⟩⟩
  intro c hc
  obtain ⟨d, -, hd⟩ := List.mem_flatMap.mp hc
  exact isAscii_escapeChar d c hd

/-! ## Integers -/

/-- Whether a value ends before a text, since the text goes on with white space, a comma or a closing
bracket, or is at its end. -/
def Ends (rest : List Char) : Prop :=
  ∀ c, rest.head? = some c → isSpace c = true ∨ c ∈ [',', ']', '\x7d']

theorem Ends.not_isDigit {rest : List Char} (h : Ends rest) (c : Char) (hc : rest.head? = some c) :
    c.isDigit = false := by
  rcases h c hc with hspace | hmem
  · simp only [isSpace, Bool.or_eq_true, decide_eq_true_eq] at hspace
    rcases hspace with ((rfl | rfl) | rfl) | rfl <;> rfl
  · simp only [List.mem_cons, List.not_mem_nil, or_false] at hmem
    rcases hmem with rfl | rfl | rfl <;> rfl

theorem Ends.not_continues {rest : List Char} (h : Ends rest) : ¬ Continues rest := by
  intro hmore
  cases hmore with
  | fraction => exact absurd (h _ rfl) (by decide)
  | exponent he => rcases he with rfl | rfl <;> exact absurd (h _ rfl) (by decide)
  | signed he => rcases he with rfl | rfl <;> exact absurd (h _ rfl) (by decide)

/-- The digits of a number do not start with a zero, unless the number is zero. -/
theorem head?_toDigits_ne {n : Nat} (h : n ≠ 0) : (Nat.toDigits 10 n).head? ≠ some '0' := by
  induction n using Nat.strongRecOn with
  | ind n ih =>
    by_cases hlt : n < 10
    · rw [Nat.toDigits_of_lt_base hlt, List.head?_cons, Ne, Option.some.injEq, Nat.digitChar_eq_zero]
      exact h
    · have htens : n / 10 ≠ 0 := by omega
      rw [Nat.toDigits_of_base_le (by decide) (Nat.not_lt.mp hlt),
        List.head?_append_of_ne_nil _ Nat.toDigits_ne_nil]
      exact ih (n / 10) (by omega) htens

theorem isDigit_of_mem {n : Nat} {c : Char} (h : c ∈ Nat.toDigits 10 n) : c.isDigit = true :=
  Nat.isDigit_of_mem_toDigits (by decide) (by decide) h

theorem wholeDigits?_toDigits (n : Nat) {rest : List Char} (h : Ends rest) :
    wholeDigits? (Nat.toDigits 10 n ++ rest) = some (Nat.toDigits 10 n, rest) := by
  rw [wholeDigits?_eq_some_iff]
  by_cases hzero : n = 0
  · obtain rfl := hzero
    exact .zero rest
  · exact .digits Nat.toDigits_ne_nil (fun c hc => isDigit_of_mem hc) (head?_toDigits_ne hzero)
      h.not_isDigit

/-- The sign and the digits of an integer, cut apart. -/
theorem splitMinus_intChars (n : Int) (rest : List Char) :
    splitMinus (Value.intChars n ++ rest) = (decide (n < 0), Nat.toDigits 10 n.natAbs ++ rest) := by
  cases n with
  | ofNat n =>
    obtain ⟨d, ds, hds⟩ := List.exists_cons_of_ne_nil (Nat.toDigits_ne_nil (n := n) (b := 10))
    have hdigit : d.isDigit = true := isDigit_of_mem (n := n) (hds ▸ List.mem_cons_self)
    have hminus : d ≠ '-' := by
      rintro rfl
      cases hdigit
    simp only [Value.intChars, Int.ofNat_eq_natCast, Int.natAbs_natCast, hds,
      List.cons_append]
    rw [splitMinus.eq_def]
    split
    · next heq => exact absurd (List.cons.inj heq).1 hminus
    · simp
  | negSucc n => simp [Value.intChars, splitMinus, Int.negSucc_lt_zero]

theorem signed_natAbs (n : Int) : Binary64.signed (decide (n < 0)) n.natAbs = n := by
  rw [Binary64.signed]
  by_cases h : n < 0
  · rw [if_pos (decide_eq_true h)]
    omega
  · rw [decide_eq_false h, if_neg Bool.false_ne_true]
    omega

/-- An integer with not too many digits is read off what is written for it. -/
theorem number_intChars {n : Int} {rest : List Char}
    (hshort : (Nat.toDigits 10 n.natAbs).length ≤ Numeral.maxDigits) (h : Ends rest) :
    number (Value.intChars n ++ rest) = .ok (.int n, rest) := by
  have hsplit := splitMinus_intChars n rest
  have hwhole : wholeDigits? (splitMinus (Value.intChars n ++ rest)).2 =
      some (Nat.toDigits 10 n.natAbs, rest) := by
    rw [hsplit]
    exact wholeDigits?_toDigits _ h
  have hnumbering := numbering_number (Value.intChars n ++ rest)
  generalize number (Value.intChars n ++ rest) = result at hnumbering
  cases hnumbering with
  | missing hmissing => cases hmissing.symm.trans hwhole
  | float hwhole' hmore =>
    cases hwhole'.symm.trans hwhole
    exact absurd hmore h.not_continues
  | integer hwhole' =>
    cases hwhole'.symm.trans hwhole
    rw [hsplit, Nat.ofDigitChars_ten_toDigits, signed_natAbs]
  | long hwhole' _ hlong =>
    cases hwhole'.symm.trans hwhole
    exact absurd hlong (Nat.not_lt.mpr hshort)

/-- It is a value on its own. -/
theorem scalar_intChars {n : Int} {rest : List Char}
    (hshort : (Nat.toDigits 10 n.natAbs).length ≤ Numeral.maxDigits) (h : Ends rest) :
    scalar (Value.intChars n ++ rest) = .ok (.int n, rest) := by
  have hnumber := number_intChars hshort h
  rw [scalar.eq_def]
  split
  -- no word and no string is an integer
  all_goals first | exact hnumber | skip
  all_goals
    next heq =>
      rw [heq] at hnumber
      cases hnumber

end MachineCloud.Json
