import MachineCloud.Proofs.Entries
import MachineCloud.Proofs.Lists
import MachineCloud.Proofs.Text.Blank
import MachineCloud.Settings.EnvFile

/-!
# Environment files of plain lines

A plain line is a key, an equal sign and a value, both of them just as they are meant: nothing is
quoted, starts a comment or stands for a variable.  A file of such lines gives each key the value of
its last line, over what the environment had (`load_of_isPlainText`).
-/

namespace MachineCloud

namespace EnvFile

/-! ## Plain lines -/

/-- What ends a key. -/
def endsKey (c : Char) : Bool := c = '=' || c = '#' || Text.isBlank c

/-- Whether a text can be a key as it stands. -/
structure IsPlainKey (key : List Char) : Prop where
  nonempty : key ≠ []
  start : key.head? ≠ some '\''
  chars : ∀ c ∈ key, c ≠ '\x00' ∧ endsKey c = false

/-- Whether a text can be a bare value as it stands. -/
structure IsPlainValue (value : List Char) : Prop where
  chars : ∀ c ∈ value, c ≠ '\x00' ∧ isLineEnd c = false
  start : ∀ c ∈ value.head?, c ≠ '\'' ∧ c ≠ '"' ∧ Text.isBlank c = false
  ending : ∀ c ∈ value.getLast?, Text.isBlank c = false
  comment : ∀ c, Text.isBlank c = true → ¬ [c, '#'] <:+: value
  reference : ¬ ['$', '\x7b'] <:+: value

/-- Whether a key and a value can stand in a line as they are. -/
structure IsPlain (p : String × String) : Prop where
  key : IsPlainKey p.1.toList
  value : IsPlainValue p.2.toList

/-- Whether a character means nothing but itself, wherever it is in a line. -/
def isOrdinary (c : Char) : Bool :=
  !(endsKey c || isLineEnd c || c = '\x00' || c = '\'' || c = '"' || c = '$')

/-- A key and a value of ordinary characters can stand in a line. -/
theorem isPlain_of_isOrdinary {p : String × String} (hnonempty : p.1.toList ≠ [])
    (hall : (p.1.toList ++ p.2.toList).all isOrdinary = true) : IsPlain p := by
  have hordinary (c : Char) (hc : isOrdinary c = true) : endsKey c = false ∧
      isLineEnd c = false ∧ c ≠ '\x00' ∧ c ≠ '\'' ∧ c ≠ '"' ∧ c ≠ '$' := by
    simpa [isOrdinary, and_assoc] using hc
  have hends (c : Char) (hc : endsKey c = false) : c ≠ '#' ∧ Text.isBlank c = false := by
    simp only [endsKey, Bool.or_eq_false_iff, decide_eq_false_iff_not] at hc
    exact ⟨hc.1.2, hc.2⟩
  rw [List.all_eq_true] at hall
  have hkey (c : Char) (hc : c ∈ p.1.toList) := hall c (List.mem_append_left _ hc)
  have hvalue (c : Char) (hc : c ∈ p.2.toList) := hall c (List.mem_append_right _ hc)
  refine ⟨⟨hnonempty, ?_, ?_⟩, ⟨?_, ?_, ?_, ?_, ?_⟩⟩
  · intro hstart
    exact (hordinary _ (hkey _ (List.mem_of_mem_head? hstart))).2.2.2.1 rfl
  · intro c hc
    obtain ⟨hend, -, hnull, -⟩ := hordinary c (hkey c hc)
    exact ⟨hnull, hend⟩
  · intro c hc
    obtain ⟨-, hline, hnull, -⟩ := hordinary c (hvalue c hc)
    exact ⟨hnull, hline⟩
  · intro c hc
    obtain ⟨hend, -, -, hsingle, hdouble, -⟩ := hordinary c (hvalue c (List.mem_of_mem_head? hc))
    exact ⟨hsingle, hdouble, (hends c hend).2⟩
  · intro c hc
    exact (hends c (hordinary c (hvalue c (List.mem_of_getLast? hc))).1).2
  · intro c _ hin
    have hsign := hvalue '#' (hin.subset (List.mem_cons_of_mem _ List.mem_cons_self))
    exact (hends '#' (hordinary '#' hsign).1).1 rfl
  · intro hin
    exact (hordinary '$' (hvalue '$' (hin.subset List.mem_cons_self))).2.2.2.2.2 rfl

/-- Whether a text is that of plain lines with some keys and values.  Only the last line may lack its
end. -/
inductive IsPlainText : List (String × String) → List Char → Prop
  | nil : IsPlainText [] []
  | last {p : String × String} (h : IsPlain p) :
      IsPlainText [p] (p.1.toList ++ '=' :: p.2.toList)
  | line {p : String × String} {rest : List (String × String)} {cs : List Char} (h : IsPlain p)
      (hrest : IsPlainText rest cs) :
      IsPlainText (p :: rest) (p.1.toList ++ '=' :: (p.2.toList ++ '\n' :: cs))

theorem isInnerBlank_of_isBlank {c : Char} (h : Text.isBlank c = false) : isInnerBlank c = false := by
  rw [isInnerBlank, h]
  rfl

theorem skipInner_cons {c : Char} (h : isInnerBlank c = false) (cs : List Char) :
    skipInner (c :: cs) = c :: cs := by
  rw [skipInner, List.dropWhile_cons, h]
  rfl

section

variable {key value : List Char}

theorem IsPlainKey.exists_cons (h : IsPlainKey key) :
    ∃ c rest, key = c :: rest ∧ c ≠ '\'' ∧ c ≠ '#' ∧ Text.isBlank c = false := by
  obtain ⟨hnonempty, hstart, hchars⟩ := h
  cases key with
  | nil => exact absurd rfl hnonempty
  | cons c rest =>
    have hc := (hchars c List.mem_cons_self).2
    simp only [endsKey, Bool.or_eq_false_iff, decide_eq_false_iff_not] at hc
    exact ⟨c, rest, rfl, fun hquote => hstart (congrArg some hquote), hc.1.2, hc.2⟩

/-- The word `export` is not cut off a key: what follows it is no blank. -/
theorem IsPlainKey.skipExport (h : IsPlainKey key) (rest : List Char) :
    skipExport (key ++ '=' :: rest) = key ++ '=' :: rest := by
  unfold EnvFile.skipExport
  split
  · next c left heq =>
    have hseventh : (key ++ '=' :: rest)[6]? = some c := by rw [heq]; rfl
    have hsign : (key ++ '=' :: rest)[key.length]? = some '=' := by simp
    -- The seventh character is past the equal sign, is the sign, or is part of the key.
    rw [if_neg]
    intro hblank
    rcases Nat.lt_trichotomy key.length 6 with hshort | hsix | hlong
    · have hlength : key.length = 0 ∨ key.length = 1 ∨ key.length = 2 ∨ key.length = 3 ∨
          key.length = 4 ∨ key.length = 5 := by omega
      rw [heq] at hsign
      rcases hlength with h | h | h | h | h | h <;> (rw [h] at hsign; cases hsign)
    · rw [hsix, hseventh] at hsign
      cases hsign
      exact absurd hblank (by decide)
    · rw [List.getElem?_append_left hlong] at hseventh
      have hc := (h.chars c (List.mem_of_getElem? hseventh)).2
      simp only [endsKey, Bool.or_eq_false_iff] at hc
      rw [isInnerBlank_of_isBlank hc.2] at hblank
      cases hblank
  · rfl

/-- A plain key is read up to the equal sign. -/
theorem IsPlainKey.readKey? (h : IsPlainKey key) (rest : List Char) :
    readKey? (key ++ '=' :: rest) = some (some key, '=' :: rest) := by
  have hchars : ∀ d ∈ key, (!endsKey d) = true := fun d hd => by rw [(h.chars d hd).2]; rfl
  have hsign (c : Char) (h : ('=' :: rest).head? = some c) : (!endsKey c) = false := by
    cases h
    rfl
  obtain ⟨htake, hdrop⟩ := takeWhile_append_of_end hchars hsign
  obtain ⟨c, tail, rfl, hquote, hcomment, hblank⟩ := h.exists_cons
  unfold EnvFile.readKey?
  split
  · next heq =>
    cases heq
    exact absurd rfl hcomment
  · next heq =>
    cases heq
    exact absurd rfl hquote
  · change (if (List.takeWhile (fun d => !endsKey d) (c :: tail ++ '=' :: rest)).isEmpty = true
      then none
      else some (some (List.takeWhile (fun d => !endsKey d) (c :: tail ++ '=' :: rest)),
        List.dropWhile (fun d => !endsKey d) (c :: tail ++ '=' :: rest))) = _
    rw [htake, hdrop]
    rfl

/-- The last of some blanks stands right before what follows them. -/
theorem exists_isBlank_infix {blanks : List Char} (hnonempty : blanks ≠ [])
    (h : ∀ c ∈ blanks, Text.isBlank c = true) (d : Char) (rest : List Char) :
    ∃ c, Text.isBlank c = true ∧ [c, d] <:+: blanks ++ d :: rest := by
  refine ⟨blanks.getLast hnonempty, h _ (List.getLast_mem hnonempty), blanks.dropLast, rest, ?_⟩
  conv_rhs => rw [← List.dropLast_append_getLast hnonempty]
  simp

/-- No comment is cut off a text in which its sign follows no blank. -/
theorem dropComment_eq_self {cs : List Char}
    (h : ∀ c, Text.isBlank c = true → ¬ [c, '#'] <:+: cs) : dropComment cs = cs := by
  induction cs with
  | nil => rfl
  | cons c rest ih =>
    have hrest (d : Char) (hd : Text.isBlank d = true) : ¬ [d, '#'] <:+: rest := fun hin =>
      h d hd (hin.trans (List.suffix_cons c rest).isInfix)
    -- A comment would start at the last of the blanks before its sign.
    have hstays : ¬ (Text.isBlank c = true ∧ (rest.dropWhile Text.isBlank).head? = some '#') := by
      rintro ⟨hc, hhead⟩
      obtain ⟨left, hleft⟩ := List.head?_eq_some_iff.mp hhead
      have hsplit := List.takeWhile_append_dropWhile (p := Text.isBlank) (l := rest)
      have hblanks (d : Char) (hd : d ∈ c :: rest.takeWhile Text.isBlank) :
          Text.isBlank d = true := by
        rcases List.mem_cons.mp hd with rfl | hmem
        · exact hc
        · exact List.mem_takeWhile_imp hmem
      obtain ⟨d, hd, hin⟩ := exists_isBlank_infix (List.cons_ne_nil _ _) hblanks '#' left
      rw [List.cons_append, ← hleft, hsplit] at hin
      exact h d hd hin
    rw [dropComment, if_neg (by simpa using hstays), ih hrest]

/-- Whether the rest of a text starts with the end of a line, or is empty. -/
def IsLineRest (rest : List Char) : Prop := rest = [] ∨ ∃ left, rest = '\n' :: left

theorem IsLineRest.isLineEnd {rest : List Char} (h : IsLineRest rest) (c : Char)
    (hc : rest.head? = some c) : isLineEnd c = true := by
  rcases h with rfl | ⟨left, rfl⟩ <;> cases hc
  rfl

/-- Nothing is cut off the start of a plain value, whether or not the end of the line follows. -/
theorem IsPlainValue.skipInner (h : IsPlainValue value) {rest : List Char} (hrest : IsLineRest rest) :
    EnvFile.skipInner (value ++ rest) = value ++ rest := by
  cases value with
  | nil =>
    rcases hrest with rfl | ⟨left, rfl⟩
    · rfl
    · exact skipInner_cons rfl left
  | cons c tail => exact skipInner_cons (isInnerBlank_of_isBlank (h.start c rfl).2.2) _

/-- A plain value is read up to the end of its line. -/
theorem IsPlainValue.readValue? (h : IsPlainValue value) {rest : List Char}
    (hrest : IsLineRest rest) : readValue? (value ++ rest) = some (value, rest) := by
  have hchars : ∀ d ∈ value, (!isLineEnd d) = true := fun d hd => by
    rw [(h.chars d hd).2]
    rfl
  have hend (c : Char) (hc : rest.head? = some c) : (!isLineEnd c) = false := by
    rw [hrest.isLineEnd c hc]
    rfl
  obtain ⟨htake, hdrop⟩ := takeWhile_append_of_end hchars hend
  have hbare : EnvFile.skipInner value = value := by
    have hskip := h.skipInner (.inl rfl)
    rw [List.append_nil] at hskip
    exact hskip
  have hfirst (c : Char) (left : List Char) (heq : value ++ rest = c :: left) :
      c ≠ '\'' ∧ c ≠ '"' := by
    cases value with
    | nil =>
      have hc := hrest.isLineEnd c (by rw [← List.nil_append rest, heq]; rfl)
      constructor <;> (rintro rfl; cases hc)
    | cons d tail =>
      cases heq
      exact ⟨(h.start c rfl).1, (h.start c rfl).2.1⟩
  unfold EnvFile.readValue?
  rw [h.skipInner hrest]
  split
  · next left heq => exact absurd rfl (hfirst _ left heq).1
  · next left heq => exact absurd rfl (hfirst _ left heq).2
  · rw [htake, hdrop, dropComment_eq_self h.comment]
    simp only [hbare, Text.dropEndWhile_eq_self h.ending]

/-- A text that refers to no variable stands for itself. -/
theorem expand_eq_self {cs : List Char} (h : ¬ ['$', '\x7b'] <:+: cs)
    (valueOf? : String → Option String) (fuel : Nat) : expand valueOf? fuel cs = cs := by
  induction cs generalizing fuel with
  | nil => cases fuel <;> rfl
  | cons c rest ih =>
    cases fuel with
    | zero => rfl
    | succ fuel =>
      have hrest : ¬ ['$', '\x7b'] <:+: rest := fun hin =>
        h (hin.trans (List.suffix_cons c rest).isInfix)
      rw [expand, ih hrest]
      rintro left rfl rfl
      exact h (List.prefix_append ['$', '\x7b'] left).isInfix

/-- What is left after the end of a line. -/
def afterLine : List Char → List Char
  | '\n' :: left => left
  | rest => rest

theorem finishLine?_of_isLineRest {rest : List Char} (h : IsLineRest rest) :
    finishLine? rest = some (afterLine rest) := by
  rcases h with rfl | ⟨left, rfl⟩ <;> rfl

/-- A plain line is read as its key and its value. -/
theorem readLine_of_isPlain {p : String × String} (h : IsPlain p) {rest : List Char}
    (hrest : IsLineRest rest) :
    readLine (p.1.toList ++ '=' :: (p.2.toList ++ rest)) =
      .ok (some (p.1, some p.2), afterLine rest) := by
  rw [readLine]
  simp only [h.key.skipExport, h.key.readKey?]
  rw [skipInner_cons rfl]
  simp only [h.value.readValue? hrest, Option.map_some, finishLine?_of_isLineRest hrest,
    String.ofList_toList]

end

/-! ## Files -/

variable {pairs : List (String × String)} {cs : List Char}

theorem IsPlainText.isPlain (h : IsPlainText pairs cs) : ∀ p ∈ pairs, IsPlain p := by
  induction h with
  | nil => exact fun p hp => absurd hp List.not_mem_nil
  | last h =>
    intro q hq
    rw [List.mem_singleton.mp hq]
    exact h
  | line h _ ih =>
    intro q hq
    rcases List.mem_cons.mp hq with rfl | hmem
    · exact h
    · exact ih q hmem

theorem IsPlainText.length_le (h : IsPlainText pairs cs) : pairs.length ≤ cs.length := by
  induction h with
  | nil => exact Nat.le_refl 0
  | last h =>
    simp only [List.length_cons, List.length_append, List.length_nil]
    omega
  | line h _ ih =>
    simp only [List.length_cons, List.length_append]
    omega

/-- The first line of a text is read, and then the others are. -/
theorem bindings_cons {p : String × String} (h : IsPlain p) {rest : List Char}
    (hrest : IsLineRest rest) (fuel : Nat) :
    bindings (fuel + 1) (p.1.toList ++ '=' :: (p.2.toList ++ rest)) =
      (p.1, some p.2) :: bindings fuel (afterLine rest) := by
  obtain ⟨c, tail, hkey, -, -, hblank⟩ := h.key.exists_cons
  have hstart : ∃ left, p.1.toList ++ '=' :: (p.2.toList ++ rest) = c :: left := by
    rw [hkey]
    exact ⟨_, rfl⟩
  obtain ⟨left, hleft⟩ := hstart
  have hread := readLine_of_isPlain h hrest
  rw [hleft] at hread ⊢
  rw [bindings, List.dropWhile_cons, hblank]
  simp only [Bool.false_eq_true, if_false, hread]

/-- Each plain line of a text is read, one after the other. -/
theorem bindings_of_isPlainText (h : IsPlainText pairs cs) {fuel : Nat} (hfuel : pairs.length < fuel) :
    bindings fuel cs = pairs.map fun p => (p.1, some p.2) := by
  induction h generalizing fuel with
  | nil => cases fuel <;> rfl
  | @last p h =>
    obtain ⟨fuel, rfl⟩ := Nat.exists_eq_add_one_of_ne_zero (Nat.ne_zero_of_lt hfuel)
    have hbindings := bindings_cons h (.inl rfl) fuel
    rw [List.append_nil] at hbindings
    rw [hbindings]
    cases fuel <;> rfl
  | @line p rest cs h _ ih =>
    obtain ⟨fuel, rfl⟩ := Nat.exists_eq_add_one_of_ne_zero (Nat.ne_zero_of_lt hfuel)
    rw [bindings_cons h (.inr ⟨cs, rfl⟩), afterLine, ih (Nat.lt_of_succ_lt_succ hfuel)]
    rfl

/-- A plain line gives its key just its value. -/
theorem add_of_isPlain {p : String × String} (h : IsPlain p) (environment : Entries String)
    (given : Given) : Given.add environment given (p.1, some p.2) = given.put p.1 (some p.2) := by
  rw [Given.add, Option.map_some, expand_eq_self h.value.reference, String.ofList_toList]

/-- What plain lines give to their keys. -/
theorem foldl_add (h : ∀ p ∈ pairs, IsPlain p) (environment : Entries String) :
    (pairs.map fun p => (p.1, some p.2)).foldl (Given.add environment) [] =
      (Entries.ofPairs pairs).map fun p => (p.1, some p.2) := by
  induction pairs using List.reverseRecOn with
  | nil => rfl
  | append_singleton pairs p ih =>
    have hp := h p (List.mem_append_right _ List.mem_cons_self)
    rw [List.map_append, List.foldl_append, ih fun q hq => h q (List.mem_append_left _ hq),
      Entries.ofPairs_concat, ← Entries.map_put]
    exact add_of_isPlain hp environment _

/-- What a plain line gives can be set. -/
theorem setGiven_of_isPlain {p : String × String} (h : IsPlain p) (environment : Entries String) :
    setGiven environment (p.1, some p.2) = .ok (environment.put p.1 p.2) := by
  have hkey : Files.hasNull p.1 = false := by
    rw [Files.hasNull, ← Bool.not_eq_true, List.contains_iff_mem]
    exact fun hmem => (h.key.chars _ hmem).1 rfl
  have hvalue : Files.hasNull p.2 = false := by
    rw [Files.hasNull, ← Bool.not_eq_true, List.contains_iff_mem]
    exact fun hmem => (h.value.chars _ hmem).1 rfl
  have hsign : p.1.toList.contains '=' = false := by
    rw [← Bool.not_eq_true, List.contains_iff_mem]
    exact fun hmem => absurd (h.key.chars _ hmem).2 (by decide)
  change setVariable environment p.1 p.2 = _
  unfold setVariable
  rw [hkey, hvalue, hsign]
  rfl

theorem foldlM_setGiven {q : Entries String} (h : ∀ p ∈ q, IsPlain p) (environment : Entries String) :
    (q.map fun p => (p.1, some p.2)).foldlM setGiven environment =
      .ok (environment.putAll q) := by
  induction q generalizing environment with
  | nil => rfl
  | cons p rest ih =>
    rw [List.map_cons, List.foldlM_cons, setGiven_of_isPlain (h p List.mem_cons_self)]
    exact ih (fun q hq => h q (List.mem_cons_of_mem _ hq)) (environment.put p.1 p.2)

theorem apply_of_isPlainText {text : String} (h : IsPlainText pairs text.toList)
    (environment : Entries String) :
    apply environment text = .ok (environment.putAll (Entries.ofPairs pairs)) := by
  have hfuel : pairs.length < text.length + 1 := Nat.lt_succ_of_le h.length_le
  rw [apply, givenBy, bindings_of_isPlainText h hfuel, foldl_add h.isPlain]
  exact foldlM_setGiven (fun p hp => h.isPlain p (Entries.mem_of_mem_ofPairs hp)) environment

/-- What can be read is there. -/
theorem exists?_of_read {files : Entries String} {name text : String}
    (h : Files.read files name = .ok text) : exists? files name = .ok true := by
  rw [Files.read] at h
  split at h
  · cases h
  · next hnull =>
    rw [exists?, if_neg hnull]
    split at h
    · next hplace => rw [hplace]
    · cases h
    · cases h

/-- The environment after a file of plain lines has, under every key, the value of its last line, or
else what was there. -/
theorem load_of_isPlainText {files environment : Entries String} {name text : String}
    (hread : Files.read files name = .ok text) (hon : isOff environment = false)
    (h : IsPlainText pairs text.toList) :
    ∃ loaded notices, load files environment (some name) = .ok (loaded, notices) ∧
      ∀ key, loaded.get? key = (environment.putAll pairs).get? key := by
  have hname : Text.nonEmpty? (some name) = some name := by
    rw [Text.nonEmpty?]
    intro heq
    cases heq
    cases hread
  have happly : applyAt files environment name =
      .ok (environment.putAll (Entries.ofPairs pairs)) := by
    rw [applyAt, hread]
    simp only [hon, Bool.false_eq_true, if_false, apply_of_isPlainText h]
  refine ⟨environment.putAll (Entries.ofPairs pairs),
    [⟨.info, s!"Loaded environment from: {name}"⟩], ?_, fun key => ?_⟩
  · rw [load, hname]
    simp only [exists?_of_read hread, happly]
    rfl
  · rw [Entries.get?_putAll_of_nodup (Entries.nodup_ofPairs pairs), Entries.get?_putAll]

end EnvFile

end MachineCloud
