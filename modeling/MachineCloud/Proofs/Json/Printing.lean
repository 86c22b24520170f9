import MachineCloud.Proofs.Json.Texts

/-!
# What is written

The compact and the indented form of a value are texts of it, so that both are read back
(`read_compact`, `read_pretty`).  This goes for the values that are exact: without binary64 numbers, without
integers that have too many digits, and without a key that comes twice in a map.
-/

namespace MachineCloud

/-- The values that JSON keeps as they are. -/
inductive Value.IsExact : Value → Prop
  | null : IsExact .null
  | bool (b : Bool) : IsExact (.bool b)
  | int {n : Int} (hshort : (Nat.toDigits 10 n.natAbs).length ≤ Numeral.maxDigits) : IsExact (.int n)
  | str (s : String) : IsExact (.str s)
  | list {items : List Value} (hitems : ∀ v ∈ items, IsExact v) : IsExact (.list items)
  | map {entries : Entries Value} (hnodup : entries.keys.Nodup) (hvalues : ∀ p ∈ entries, IsExact p.2) :
      IsExact (.map entries)

attribute [simp] Value.IsExact.null Value.IsExact.bool Value.IsExact.str

@[simp] theorem Value.isExact_int {n : Int} :
    (int n).IsExact ↔ (Nat.toDigits 10 n.natAbs).length ≤ Numeral.maxDigits := by
  constructor
  · rintro ⟨⟩
    assumption
  · exact .int

@[simp] theorem Value.isExact_list {items : List Value} : (list items).IsExact ↔ ∀ v ∈ items, v.IsExact := by
  constructor
  · rintro ⟨⟩
    assumption
  · exact .list

@[simp] theorem Value.isExact_map {entries : Entries Value} :
    (map entries).IsExact ↔ entries.keys.Nodup ∧ ∀ p ∈ entries, p.2.IsExact := by
  constructor
  · rintro ⟨⟩
    exact ⟨‹_›, ‹_›⟩
  · exact fun h => .map h.1 h.2

/-- A list in a list, and so on, so many times. -/
def Value.nested : Nat → Value
  | 0 => .list []
  | n + 1 => .list [nested n]

theorem Value.depth_nested (n : Nat) : (nested n).depth = n + 1 := by
  induction n with
  | zero => rfl
  | succ n ih => rw [nested, depth, depthItems, depthItems, ih, Nat.max_zero]

theorem Value.isExact_nested (n : Nat) : (nested n).IsExact := by
  induction n with
  | zero => exact .list (List.forall_mem_nil _)
  | succ n ih => exact .list (List.forall_mem_singleton.mpr ih)

namespace Json

/-! ## The compact form -/

section

variable {entries : Entries Value} {vs : List Value}

theorem writes_compactItems (h : ∀ v ∈ vs, Writes (.value v) (compact v)) (hne : vs ≠ []) :
    Writes (.items vs) (compactItems vs) := by
  induction vs with
  | nil => exact absurd rfl hne
  | cons v rest ih =>
    obtain ⟨hv, hrest⟩ := List.forall_mem_cons.mp h
    cases rest with
    | nil => simpa [compactItems] using Writes.lastItem hv blank_nil
    | cons w rest =>
      exact .item hv blank_nil blank_nil (ih hrest (List.cons_ne_nil _ _))

theorem writes_compactEntries (h : ∀ p ∈ entries, Writes (.value p.2) (compact p.2)) (hne : entries ≠ []) :
    Writes (.members entries) (compactEntries entries) := by
  induction entries with
  | nil => exact absurd rfl hne
  | cons p rest ih =>
    obtain ⟨key, v⟩ := p
    obtain ⟨hv, hrest⟩ := List.forall_mem_cons.mp h
    have hkey := spells_flatMap key.toList
    cases rest with
    | nil =>
      simpa [compactEntries, stringChars] using
        Writes.lastMember hkey blank_nil blank_nil hv blank_nil
    | cons q rest =>
      simpa [compactEntries, stringChars] using
        Writes.member hkey blank_nil blank_nil hv blank_nil blank_nil (ih hrest (List.cons_ne_nil _ _))

end

variable {v : Value}

/-- The compact form of a value is a text of it. -/
theorem writes_compact (h : v.IsExact) : Writes (.value v) (compact v) := by
  induction h with
  | null => exact .null
  | bool b =>
    cases b with
    | true => exact .yes
    | false => exact .no
  | int hshort => exact .int hshort
  | str s => exact .str (spells_flatMap s.toList)
  | @list items _ ih =>
    cases items with
    | nil => exact .noItems blank_nil
    | cons v rest => exact .list blank_nil (writes_compactItems ih (List.cons_ne_nil _ _))
  | @map entries hnodup _ ih =>
    cases entries with
    | nil => exact .noMembers blank_nil
    | cons p rest => exact .map hnodup blank_nil (writes_compactEntries ih (List.cons_ne_nil _ _))

theorem isText_compact (h : v.IsExact) : IsText v (String.ofList (compact v)) := by
  refine ⟨[], compact v, [], ?_, blank_nil, blank_nil, writes_compact h⟩
  rw [String.toList_ofList, List.nil_append, List.append_nil]

/-- The compact form is read back. -/
theorem read_compact (h : v.IsExact) (hdepth : v.depth ≤ maxDepth) :
    read (String.ofList (compact v)) = .ok v := (read_of_isText (isText_compact h)).1 hdepth

/-! ## The indented form -/

theorem blank_newline (depth : Nat) : Blank (newline depth) := by
  intro c hc
  rcases List.mem_cons.mp hc with rfl | hspace
  · rfl
  · obtain rfl := List.eq_of_mem_replicate hspace
    rfl

section

variable {entries : Entries Value} {vs : List Value} {depth : Nat}

/-- Behind the first line, indented items are a text of the items, with white space after it. -/
theorem writes_indentedItems (h : ∀ v ∈ vs, Writes (.value v) (indented depth v)) (hne : vs ≠ []) :
    ∃ cs, indentedItems depth vs = newline depth ++ cs ∧ ∀ ws, Blank ws → Writes (.items vs) (cs ++ ws) := by
  induction vs with
  | nil => exact absurd rfl hne
  | cons v rest ih =>
    obtain ⟨hv, hrest⟩ := List.forall_mem_cons.mp h
    cases rest with
    | nil => exact ⟨_, rfl, fun ws hblank => .lastItem hv hblank⟩
    | cons w rest =>
      obtain ⟨cs, hcs, hwrites⟩ := ih hrest (List.cons_ne_nil _ _)
      refine ⟨indented depth v ++ ',' :: (newline depth ++ cs), ?_, fun ws hblank => ?_⟩
      · rw [indentedItems, hcs, List.append_assoc]
        exact List.cons_ne_nil _ _
      · rw [List.append_assoc, List.cons_append, List.append_assoc]
        exact .item hv blank_nil (blank_newline depth) (hwrites ws hblank)

theorem writes_indentedEntries (h : ∀ p ∈ entries, Writes (.value p.2) (indented depth p.2))
    (hne : entries ≠ []) :
    ∃ cs, indentedEntries depth entries = newline depth ++ cs ∧
      ∀ ws, Blank ws → Writes (.members entries) (cs ++ ws) := by
  have hspace : Blank [' '] := List.forall_mem_singleton.mpr rfl
  induction entries with
  | nil => exact absurd rfl hne
  | cons p rest ih =>
    obtain ⟨key, v⟩ := p
    obtain ⟨hv, hrest⟩ := List.forall_mem_cons.mp h
    have hkey := spells_flatMap key.toList
    cases rest with
    | nil =>
      refine ⟨stringChars key ++ ':' :: ' ' :: indented depth v, ?_, fun ws hblank => ?_⟩
      · rw [indentedEntries, List.append_assoc]
      · simpa [stringChars] using Writes.lastMember hkey blank_nil hspace hv hblank
    | cons q rest =>
      obtain ⟨cs, hcs, hwrites⟩ := ih hrest (List.cons_ne_nil _ _)
      refine ⟨stringChars key ++ ':' :: ' ' :: (indented depth v ++ ',' :: (newline depth ++ cs)), ?_,
        fun ws hblank => ?_⟩
      · rw [indentedEntries, hcs]
        · simp
        · exact List.cons_ne_nil _ _
      · have hmore := Writes.member hkey blank_nil hspace hv blank_nil (blank_newline depth)
          (hwrites ws hblank)
        simpa [stringChars] using hmore

end

/-- The indented form of a value is a text of it, at any level. -/
theorem writes_indented (h : v.IsExact) (depth : Nat) : Writes (.value v) (indented depth v) := by
  induction h generalizing depth with
  | null => exact .null
  | bool b =>
    cases b with
    | true => exact .yes
    | false => exact .no
  | int hshort => exact .int hshort
  | str s => exact .str (spells_flatMap s.toList)
  | @list items _ ih =>
    cases items with
    | nil => exact .noItems blank_nil
    | cons v rest =>
      obtain ⟨cs, hcs, hwrites⟩ :=
        writes_indentedItems (fun w hw => ih w hw (depth + 1)) (List.cons_ne_nil v rest)
      rw [indented, hcs, List.append_assoc (newline (depth + 1)), List.append_assoc (newline (depth + 1))]
      exact .list (blank_newline _) (hwrites _ (blank_newline _))
  | @map entries hnodup _ ih =>
    cases entries with
    | nil => exact .noMembers blank_nil
    | cons p rest =>
      obtain ⟨cs, hcs, hwrites⟩ :=
        writes_indentedEntries (fun q hq => ih q hq (depth + 1)) (List.cons_ne_nil p rest)
      rw [indented, hcs, List.append_assoc (newline (depth + 1)), List.append_assoc (newline (depth + 1))]
      exact .map hnodup (blank_newline _) (hwrites _ (blank_newline _))

theorem isText_pretty (h : v.IsExact) : IsText v (pretty v) := by
  refine ⟨[], indented 0 v, [], ?_, blank_nil, blank_nil, writes_indented h 0⟩
  rw [pretty, String.toList_ofList, List.nil_append, List.append_nil]

/-- The indented form is read back. -/
theorem read_pretty (h : v.IsExact) (hdepth : v.depth ≤ maxDepth) : read (pretty v) = .ok v :=
  (read_of_isText (isText_pretty h)).1 hdepth

/-! ### In ASCII -/

theorem isAscii_intChars (n : Int) : IsAscii (Value.intChars n) := by
  have hdigits (n : Nat) : IsAscii (Nat.toDigits 10 n) := by
    intro c hc
    have hdigit := isDigit_of_mem hc
    simp only [Char.isDigit, ge_iff_le, Bool.and_eq_true, decide_eq_true_eq, UInt32.le_iff_toNat_le] at hdigit
    have hnine : c.toNat ≤ 57 := hdigit.2
    omega
  cases n with
  | ofNat n => exact hdigits n
  | negSucc n => exact isAscii_cons.mpr ⟨by decide, hdigits _⟩

theorem isAscii_newline (depth : Nat) : IsAscii (newline depth) := by
  refine isAscii_cons.mpr ⟨by decide, fun c hc => ?_⟩
  obtain rfl := List.eq_of_mem_replicate hc
  decide

theorem isAscii_indentedItems {vs : List Value} {depth : Nat}
    (h : ∀ v ∈ vs, IsAscii (indented depth v)) : IsAscii (indentedItems depth vs) := by
  induction vs with
  | nil => exact List.forall_mem_nil _
  | cons v rest ih =>
    obtain ⟨hv, hrest⟩ := List.forall_mem_cons.mp h
    have hfirst := isAscii_append.mpr ⟨isAscii_newline depth, hv⟩
    cases rest with
    | nil => exact hfirst
    | cons w rest => exact isAscii_append.mpr ⟨hfirst, isAscii_cons.mpr ⟨by decide, ih hrest⟩⟩

theorem isAscii_indentedEntries {entries : Entries Value} {depth : Nat}
    (h : ∀ p ∈ entries, IsAscii (indented depth p.2)) : IsAscii (indentedEntries depth entries) := by
  induction entries with
  | nil => exact List.forall_mem_nil _
  | cons p rest ih =>
    obtain ⟨key, v⟩ := p
    obtain ⟨hv, hrest⟩ := List.forall_mem_cons.mp h
    have hkey := isAscii_append.mpr ⟨isAscii_newline depth, isAscii_stringChars key⟩
    have hmember : IsAscii (':' :: ' ' :: indented depth v) :=
      isAscii_cons.mpr ⟨by decide, isAscii_cons.mpr ⟨by decide, hv⟩⟩
    have hfirst := isAscii_append.mpr ⟨hkey, hmember⟩
    cases rest with
    | nil => exact hfirst
    | cons q rest => exact isAscii_append.mpr ⟨hfirst, isAscii_cons.mpr ⟨by decide, ih hrest⟩⟩

/-- The indented form is in ASCII, whatever characters there are in the value. -/
theorem isAscii_indented (h : v.IsExact) (depth : Nat) : IsAscii (indented depth v) := by
  have hend (depth : Nat) {c : Char} (hc : c.toNat < 0x80) : IsAscii (newline depth ++ [c]) :=
    isAscii_append.mpr ⟨isAscii_newline depth, List.forall_mem_singleton.mpr hc⟩
  induction h generalizing depth with
  | null =>
    change IsAscii ['n', 'u', 'l', 'l']
    decide
  | bool b =>
    cases b with
    | true =>
      change IsAscii ['t', 'r', 'u', 'e']
      decide
    | false =>
      change IsAscii ['f', 'a', 'l', 's', 'e']
      decide
  | int => exact isAscii_intChars _
  | str s => exact isAscii_stringChars s
  | @list items _ ih =>
    cases items with
    | nil =>
      change IsAscii ['[', ']']
      decide
    | cons v rest =>
      have hitems := isAscii_indentedItems fun w hw => ih w hw (depth + 1)
      rw [indented, List.append_assoc]
      exact isAscii_cons.mpr ⟨by decide, isAscii_append.mpr ⟨hitems, hend _ (by decide)⟩⟩
  | @map entries _ _ ih =>
    cases entries with
    | nil =>
      change IsAscii ['\x7b', '\x7d']
      decide
    | cons p rest =>
      have hitems := isAscii_indentedEntries fun q hq => ih q hq (depth + 1)
      rw [indented, List.append_assoc]
      exact isAscii_cons.mpr ⟨by decide, isAscii_append.mpr ⟨hitems, hend _ (by decide)⟩⟩

end Json

end MachineCloud
