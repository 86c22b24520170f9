import MachineCloud.Json.Reader
import MachineCloud.Proofs.Lists
import MachineCloud.Proofs.Text.Blank

/-!
# Reading scalars

Strings, numbers and words are the values that hold no others, and where neither a list nor a map begins,
a value is one of them (`value_of_not_opens`).  Each takes at least one character (`length_scalar_lt`).
The only integer that is in the way is one with too many digits (`scalar_eq_digits_iff`).
-/

namespace MachineCloud.Json

/-! ## Numbers -/

/-- Whether digits go on as a number with a fraction or an exponent. -/
inductive Continues : List Char → Prop
  | fraction {d : Char} {rest : List Char} (hd : d.isDigit = true) : Continues ('.' :: d :: rest)
  | exponent {e d : Char} {rest : List Char} (he : e = 'e' ∨ e = 'E') (hd : d.isDigit = true) :
      Continues (e :: d :: rest)
  | signed {e sign d : Char} {rest : List Char} (he : e = 'e' ∨ e = 'E')
      (hsign : sign = '+' ∨ sign = '-') (hd : d.isDigit = true) : Continues (e :: sign :: d :: rest)

/-- A digit is next just if some digits are. -/
theorem isEmpty_takeWhile_isDigit (cs : List Char) :
    (cs.takeWhile Char.isDigit).isEmpty = false ↔ ∃ d rest, cs = d :: rest ∧ d.isDigit = true := by
  cases cs with
  | nil => simp
  | cons c rest =>
    cases hc : c.isDigit <;> simp [hc]

theorem isSome_fraction?_iff {cs : List Char} :
    (fraction? cs).isSome = true ↔ ∃ d rest, cs = '.' :: d :: rest ∧ d.isDigit = true := by
  rw [fraction?.eq_def]
  split
  · next rest =>
    have hdigit := isEmpty_takeWhile_isDigit rest
    cases hempty : (rest.takeWhile Char.isDigit).isEmpty <;> simp_all
  · next hpoint =>
    refine iff_of_false nofun ?_
    rintro ⟨d, rest, rfl, -⟩
    exact hpoint _ rfl

theorem isSome_exponent?_iff {cs : List Char} :
    (exponent? cs).isSome = true ↔ ∃ e rest, cs = e :: rest ∧ (e = 'e' ∨ e = 'E') ∧
      ∃ d after, (Numeral.splitSign rest).2 = d :: after ∧ d.isDigit = true := by
  cases cs with
  | nil => simp [exponent?]
  | cons e rest =>
    have hdigit := isEmpty_takeWhile_isDigit (Numeral.splitSign rest).2
    rw [exponent?]
    by_cases he : e = 'e' ∨ e = 'E'
    · rw [if_pos he]
      cases hempty : ((Numeral.splitSign rest).2.takeWhile Char.isDigit).isEmpty <;> simp_all
    · rw [if_neg he]
      simp_all

theorem continues_iff {cs : List Char} :
    Continues cs ↔ (fraction? cs).isSome = true ∨ (exponent? cs).isSome = true := by
  rw [isSome_fraction?_iff, isSome_exponent?_iff]
  constructor
  · intro h
    cases h with
    | @fraction d rest hd => exact .inl ⟨d, rest, rfl, hd⟩
    | @exponent e d rest he hd =>
      refine .inr ⟨e, d :: rest, rfl, he, d, rest, ?_, hd⟩
      rw [Numeral.splitSign.eq_def]
      split
      · next hsign =>
        cases hsign
        cases hd
      · next hsign =>
        cases hsign
        cases hd
      · rfl
    | @signed e sign d rest he hsign hd =>
      refine .inr ⟨e, sign :: d :: rest, rfl, he, d, rest, ?_, hd⟩
      rcases hsign with rfl | rfl <;> rfl
  · rintro (⟨d, rest, rfl, hd⟩ | ⟨e, rest, rfl, he, d, after, hsplit, hd⟩)
    · exact .fraction hd
    · rw [Numeral.splitSign.eq_def] at hsplit
      split at hsplit
      · cases hsplit
        exact .signed he (.inr rfl) hd
      · cases hsplit
        exact .signed he (.inl rfl) hd
      · cases hsplit
        exact .exponent he hd

theorem fraction?_spec {cs digits left : List Char} (h : fraction? cs = some (digits, left)) :
    digits.isEmpty = false ∧ left.length ≤ cs.length := by
  rw [fraction?.eq_def] at h
  split at h
  · dsimp only at h
    split at h
    · cases h
    · next hdigits =>
      cases h
      exact ⟨Bool.not_eq_true _ ▸ hdigits, Nat.le_succ_of_le (List.dropWhile_sublist _).length_le⟩
  · cases h

theorem length_splitSign_le (cs : List Char) : (Numeral.splitSign cs).2.length ≤ cs.length := by
  rw [Numeral.splitSign.eq_def]
  split
  · exact Nat.le_succ _
  · exact Nat.le_succ _
  · exact Nat.le_refl _

theorem length_exponent_le {cs left : List Char} {e : Int} (h : exponent? cs = some (e, left)) :
    left.length ≤ cs.length := by
  rw [exponent?.eq_def] at h
  split at h
  · next c rest =>
    split at h
    · dsimp only at h
      split at h
      · cases h
      · cases h
        have hdigits := (List.dropWhile_sublist (l := (Numeral.splitSign rest).2) Char.isDigit).length_le
        exact Nat.le_succ_of_le (hdigits.trans (length_splitSign_le rest))
    · cases h
  · cases h

/-- The ways in which a number is read. -/
inductive Numbering (cs : List Char) : Step Value → Prop
  /-- No digit is next. -/
  | missing (hwhole : wholeDigits? (splitMinus cs).2 = none) : Numbering cs (.error (.at .value cs))
  | float {whole rest left : List Char} {x : Binary64}
      (hwhole : wholeDigits? (splitMinus cs).2 = some (whole, rest)) (hmore : Continues rest)
      (hleft : left.length ≤ rest.length) : Numbering cs (.ok (.float x, left))
  | integer {whole rest : List Char} (hwhole : wholeDigits? (splitMinus cs).2 = some (whole, rest))
      (hmore : ¬ Continues rest) (hshort : whole.length ≤ Numeral.maxDigits) :
      Numbering cs (.ok (.int (Binary64.signed (splitMinus cs).1 (Nat.ofDigitChars 10 whole 0)), rest))
  | long {whole rest : List Char} (hwhole : wholeDigits? (splitMinus cs).2 = some (whole, rest))
      (hmore : ¬ Continues rest) (hlong : Numeral.maxDigits < whole.length) :
      Numbering cs (.error (.digits whole.length))

theorem numbering_number (cs : List Char) : Numbering cs (number cs) := by
  rw [number]
  dsimp only
  split
  · next hwhole => exact .missing hwhole
  · next whole rest hwhole =>
    cases hfraction : fraction? rest with
    | some found =>
      obtain ⟨digits, left⟩ := found
      have hmore : Continues rest := continues_iff.mpr (.inl (hfraction ▸ rfl))
      obtain ⟨hdigits, hleft⟩ := fraction?_spec hfraction
      dsimp only
      cases hexponent : exponent? left with
      | some found =>
        obtain ⟨e, after⟩ := found
        exact .float hwhole hmore ((length_exponent_le hexponent).trans hleft)
      | none =>
        rw [hdigits]
        exact .float hwhole hmore hleft
    | none =>
      dsimp only
      cases hexponent : exponent? rest with
      | some found =>
        obtain ⟨e, after⟩ := found
        exact .float hwhole (continues_iff.mpr (.inr (hexponent ▸ rfl))) (length_exponent_le hexponent)
      | none =>
        have hmore : ¬ Continues rest := by simp [continues_iff, hfraction, hexponent]
        change Numbering cs (if Numeral.maxDigits < whole.length then _ else _)
        split
        · next hlong => exact .long hwhole hmore hlong
        · next hshort => exact .integer hwhole hmore (Nat.le_of_not_lt hshort)

/-! ### Integers that are too long -/

/-- The digits before a point, and what is behind them. -/
inductive Whole : List Char → List Char → List Char → Prop
  | zero (rest : List Char) : Whole ('0' :: rest) ['0'] rest
  | digits {whole rest : List Char} (hne : whole ≠ []) (hdigits : ∀ c ∈ whole, c.isDigit = true)
      (hzero : whole.head? ≠ some '0') (hend : ∀ c, rest.head? = some c → c.isDigit = false) :
      Whole (whole ++ rest) whole rest

theorem wholeDigits?_eq_some_iff {cs whole rest : List Char} :
    wholeDigits? cs = some (whole, rest) ↔ Whole cs whole rest := by
  constructor
  · intro h
    rw [wholeDigits?.eq_def] at h
    split at h
    · cases h
      exact .zero _
    · next hzero =>
      dsimp only at h
      split at h
      · cases h
      · next hempty =>
        cases h
        have hdigits : Whole (cs.takeWhile Char.isDigit ++ cs.dropWhile Char.isDigit)
            (cs.takeWhile Char.isDigit) (cs.dropWhile Char.isDigit) := by
          refine .digits (mt List.isEmpty_iff.mpr hempty) (fun c hc => List.mem_takeWhile_imp hc) ?_ ?_
          · intro hhead
            obtain ⟨rest, hrest⟩ := List.head?_eq_some_iff.mp hhead
            have hsplit := List.takeWhile_append_dropWhile (p := Char.isDigit) (l := cs)
            rw [hrest] at hsplit
            exact hzero _ hsplit.symm
          · intro c hc
            have hhead := List.head?_dropWhile_not Char.isDigit cs
            rw [hc] at hhead
            simpa using hhead
        rwa [List.takeWhile_append_dropWhile] at hdigits
  · intro h
    cases h with
    | zero => rfl
    | digits hne hdigits hzero hend =>
      obtain ⟨htake, hdrop⟩ := takeWhile_append_of_end hdigits hend
      rw [wholeDigits?.eq_def]
      split
      · next hcs =>
        obtain ⟨d, tail, rfl⟩ := List.exists_cons_of_ne_nil hne
        cases hcs
        exact absurd rfl hzero
      · dsimp only
        rw [htake, hdrop, if_neg (mt List.isEmpty_iff.mp hne)]

/-- Whether an integer begins that has so many digits, more than there may be. -/
def BeginsLong (cs : List Char) (count : Nat) : Prop :=
  ∃ whole rest, (cs = whole ++ rest ∨ cs = '-' :: (whole ++ rest)) ∧
    whole.length = count ∧ Numeral.maxDigits < count ∧ (∀ c ∈ whole, c.isDigit = true) ∧
    whole.head? ≠ some '0' ∧ (∀ c, rest.head? = some c → c.isDigit = false) ∧ ¬ Continues rest

theorem splitMinus_spec (cs : List Char) : cs = (splitMinus cs).2 ∨ cs = '-' :: (splitMinus cs).2 := by
  rw [splitMinus.eq_def]
  split
  · exact .inr rfl
  · exact .inl rfl

/-- The integers that are too long are found, and nothing else is taken for one. -/
theorem number_eq_digits_iff {cs : List Char} {count : Nat} :
    number cs = .error (.digits count) ↔ BeginsLong cs count := by
  have hnumbering := numbering_number cs
  constructor
  · intro h
    rw [h] at hnumbering
    cases hnumbering with
    | @long whole rest hwhole hmore hlong =>
      have hbody := splitMinus_spec cs
      generalize (splitMinus cs).2 = body at hwhole hbody
      cases wholeDigits?_eq_some_iff.mp hwhole with
      | zero => exact absurd hlong (by decide)
      | digits hne hdigits hzero hend =>
        exact ⟨whole, rest, hbody, rfl, hlong, hdigits, hzero, hend, hmore⟩
  · rintro ⟨whole, rest, hcs, rfl, hlong, hdigits, hzero, hend, hmore⟩
    have hne : whole ≠ [] := by
      rintro rfl
      exact absurd hlong (Nat.not_lt_zero _)
    have hbody : (splitMinus cs).2 = whole ++ rest := by
      rcases hcs with rfl | rfl
      · obtain ⟨d, tail, rfl⟩ := List.exists_cons_of_ne_nil hne
        rw [splitMinus.eq_def]
        split
        · next hcs =>
          cases hcs
          exact absurd (hdigits _ List.mem_cons_self) (by decide)
        · rfl
      · rfl
    have hwhole : wholeDigits? (splitMinus cs).2 = some (whole, rest) := by
      rw [hbody]
      exact wholeDigits?_eq_some_iff.mpr (.digits hne hdigits hzero hend)
    generalize number cs = result at hnumbering
    cases hnumbering with
    | missing hmissing =>
      cases hmissing.symm.trans hwhole
    | float hwhole' hmore' =>
      cases hwhole'.symm.trans hwhole
      exact absurd hmore' hmore
    | integer hwhole' _ hshort =>
      cases hwhole'.symm.trans hwhole
      exact absurd hlong (Nat.not_lt.mpr hshort)
    | long hwhole' _ _ =>
      cases hwhole'.symm.trans hwhole
      rfl

/-- A number takes at least one character. -/
theorem length_number_lt {cs left : List Char} {v : Value} (h : number cs = .ok (v, left)) :
    left.length < cs.length := by
  have hbody : (splitMinus cs).2.length ≤ cs.length := by
    rcases splitMinus_spec cs with hcs | hcs
    · exact (congrArg List.length hcs).ge
    · exact (Nat.le_succ _).trans (congrArg List.length hcs).ge
  have hrest {whole rest : List Char} (hwhole : wholeDigits? (splitMinus cs).2 = some (whole, rest)) :
      rest.length < cs.length := by
    refine Nat.lt_of_lt_of_le ?_ hbody
    generalize (splitMinus cs).2 = body at hwhole
    cases wholeDigits?_eq_some_iff.mp hwhole with
    | zero => exact Nat.lt_succ_self _
    | digits hne => simpa using List.length_pos_of_ne_nil hne
  have hnumbering := numbering_number cs
  rw [h] at hnumbering
  cases hnumbering with
  | float hwhole _ hleft => exact Nat.lt_of_le_of_lt hleft (hrest hwhole)
  | integer hwhole _ _ => exact hrest hwhole

/-! ## Strings -/

theorem length_string_lt {start acc cs left : List Char} {s : String}
    (h : string start acc cs = .ok (s, left)) : left.length < cs.length := by
  fun_induction string start acc cs with
  | case1 => cases h
  | case2 acc rest =>
    cases h
    exact Nat.lt_succ_self _
  | case3 => cases h
  | case4 => cases h
  | case5 acc rest c after hescape ih =>
    have hlength := unicodeEscape_length hescape
    exact Nat.lt_trans (ih h) (Nat.lt_of_lt_of_le hlength (Nat.le_add_right _ 2))
  | case6 acc c rest _ x _ ih => exact Nat.lt_trans (ih h) (Nat.lt_add_of_pos_right Nat.two_pos)
  | case7 => cases h
  | case8 => cases h
  | case9 acc c rest _ _ _ _ _ ih => exact Nat.lt_trans (ih h) (Nat.lt_succ_self _)

theorem lowSurrogate?_error {cs : List Char} {halt : Halt} (h : lowSurrogate? cs = .error halt) :
    ∃ what left, halt = .at what left := by
  rw [lowSurrogate?.eq_def] at h
  split at h
  · split at h
    · cases h
      exact ⟨_, _, rfl⟩
    · cases h
  · cases h

theorem unicodeEscape_error {cs : List Char} {halt : Halt} (h : unicodeEscape cs = .error halt) :
    ∃ what left, halt = .at what left := by
  rw [unicodeEscape.eq_def] at h
  split at h
  · split at h
    · cases h
      exact ⟨_, _, rfl⟩
    · split at h
      · split at h
        · next hlow =>
          cases h
          exact lowSurrogate?_error hlow
        · cases h
        · cases h
      · cases h
  · cases h
    exact ⟨_, _, rfl⟩

/-- What is wrong with a string is wrong at a place. -/
theorem string_error {start acc cs : List Char} {halt : Halt} (h : string start acc cs = .error halt) :
    ∃ what left, halt = .at what left := by
  fun_induction string start acc cs with
  | case4 acc rest problem hescape =>
    cases h
    exact unicodeEscape_error hescape
  | case2 => cases h
  | case5 acc rest c left _ ih => exact ih h
  | case6 acc c rest _ x _ ih => exact ih h
  | case9 acc c rest _ _ _ _ _ ih => exact ih h
  | _ =>
    cases h
    exact ⟨_, _, rfl⟩

/-! ## Scalars -/

/-- Whether a list or a map begins. -/
inductive Opens : Nesting → List Char → Prop
  | list (rest : List Char) : Opens .list ('[' :: rest)
  | map (rest : List Char) : Opens .map ('\x7b' :: rest)

/-- A value that holds no others. -/
def scalar (cs : List Char) : Step Value :=
  match cs with
  | '"' :: rest =>
    match string cs [] rest with
    | .error h => .error h
    | .ok (s, left) => .ok (.str s, left)
  | 'n' :: 'u' :: 'l' :: 'l' :: rest => .ok (.null, rest)
  | 't' :: 'r' :: 'u' :: 'e' :: rest => .ok (.bool true, rest)
  | 'f' :: 'a' :: 'l' :: 's' :: 'e' :: rest => .ok (.bool false, rest)
  | 'N' :: 'a' :: 'N' :: rest => .ok (.float .nan, rest)
  | 'I' :: 'n' :: 'f' :: 'i' :: 'n' :: 'i' :: 't' :: 'y' :: rest => .ok (.float (.infinite false), rest)
  | '-' :: 'I' :: 'n' :: 'f' :: 'i' :: 'n' :: 'i' :: 't' :: 'y' :: rest =>
    .ok (.float (.infinite true), rest)
  | cs => number cs

/-- Where no list and no map begins, the value is a scalar. -/
theorem value_of_not_opens {cs : List Char} (h : ∀ what, ¬ Opens what cs) (fuel depth : Nat) :
    value (fuel + 1) depth cs = scalar cs := by
  rw [value.eq_def, scalar.eq_def]
  dsimp only
  split
  · rfl
  · exact absurd (.map _) (h .map)
  · exact absurd (.list _) (h .list)
  · rfl
  · rfl
  · rfl
  · rfl
  · rfl
  · rfl
  · split <;> first | rfl | simp_all

/-! ### What a scalar comes to -/

/-- A scalar takes at least one character. -/
theorem length_scalar_lt {cs left : List Char} {v : Value} (h : scalar cs = .ok (v, left)) :
    left.length < cs.length := by
  rw [scalar.eq_def] at h
  split at h
  · next rest =>
    split at h
    · cases h
    · next s after hstring =>
      cases h
      exact Nat.lt_succ_of_lt (length_string_lt hstring)
  all_goals first | exact length_number_lt h | skip
  all_goals
    cases h
    simp only [List.length_cons]
    omega

/-- What is wrong with a scalar is wrong at a place, unless it is an integer that is too long. -/
theorem scalar_error {cs : List Char} {halt : Halt} (h : scalar cs = .error halt) :
    (∃ what left, halt = .at what left) ∨ ∃ count, halt = .digits count ∧ BeginsLong cs count := by
  rw [scalar.eq_def] at h
  split at h
  · split at h
    · next hstring =>
      cases h
      exact .inl (string_error hstring)
    · cases h
  all_goals try cases h
  have hnumbering := numbering_number cs
  rw [h] at hnumbering
  cases hnumbering with
  | missing => exact .inl ⟨_, _, rfl⟩
  | long => exact .inr ⟨_, rfl, number_eq_digits_iff.mp h⟩

/-- An integer that is too long begins with a digit or a minus sign. -/
theorem BeginsLong.head {cs : List Char} {count : Nat} (h : BeginsLong cs count) :
    ∃ c rest, cs = c :: rest ∧ (c = '-' ∨ c.isDigit = true) := by
  obtain ⟨whole, rest, hcs, rfl, hlong, hdigits, -⟩ := h
  rcases hcs with rfl | rfl
  · cases whole with
    | nil => exact absurd hlong (Nat.not_lt_zero _)
    | cons d tail => exact ⟨d, _, rfl, .inr (hdigits d List.mem_cons_self)⟩
  · exact ⟨'-', _, rfl, .inl rfl⟩

/-- It is in the way of the value. -/
theorem scalar_of_beginsLong {cs : List Char} {count : Nat} (h : BeginsLong cs count) :
    scalar cs = .error (.digits count) := by
  have hnumber := number_eq_digits_iff.mpr h
  rw [scalar.eq_def]
  split
  -- no word and no string is an integer
  all_goals first | exact hnumber | cases hnumber

end MachineCloud.Json
