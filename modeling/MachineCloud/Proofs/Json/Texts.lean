import MachineCloud.Proofs.Entries
import MachineCloud.Proofs.Json.Grammar
import MachineCloud.Proofs.Json.Spelling

/-!
# Texts of values

`Writes` tells which texts write a value: white space may stand between any two tokens, and strings may be
spelled in any way.  There is a text just for the values without binary64 numbers and without integers that
have too many digits.  Each text is read back as its value, member by member in the order of the text, if
lists and maps do not stand too deep in each other, and for this reason only it is not
(`read_of_isText`).
-/

namespace MachineCloud.Json

/-- White space. -/
def Blank (ws : List Char) : Prop := ∀ c ∈ ws, isSpace c = true

theorem blank_nil : Blank [] := List.forall_mem_nil _

/-- What a text writes: a value, the items of a list or the members of a map. -/
inductive Content where
  | value (v : Value)
  | items (vs : List Value)
  | members (entries : Entries Value)

/-- How deep lists and maps stand in each other in it. -/
def Content.depth : Content → Nat
  | value v => v.depth
  | items vs => Value.depthItems vs
  | members entries => Value.depthEntries entries

/-- The texts that write a value, some items or some members. -/
inductive Writes : Content → List Char → Prop
  | null : Writes (.value .null) ['n', 'u', 'l', 'l']
  | yes : Writes (.value (.bool true)) ['t', 'r', 'u', 'e']
  | no : Writes (.value (.bool false)) ['f', 'a', 'l', 's', 'e']
  | int {n : Int} (hshort : (Nat.toDigits 10 n.natAbs).length ≤ Numeral.maxDigits) :
      Writes (.value (.int n)) (Value.intChars n)
  | str {s : String} {spelling : List Char} (h : Spells s.toList spelling) :
      Writes (.value (.str s)) ('"' :: (spelling ++ ['"']))
  | noItems {ws : List Char} (hblank : Blank ws) : Writes (.value (.list [])) ('[' :: (ws ++ [']']))
  | list {vs : List Value} {ws cs : List Char} (hblank : Blank ws) (h : Writes (.items vs) cs) :
      Writes (.value (.list vs)) ('[' :: (ws ++ (cs ++ [']'])))
  | noMembers {ws : List Char} (hblank : Blank ws) :
      Writes (.value (.map [])) ('\x7b' :: (ws ++ ['\x7d']))
  | map {entries : Entries Value} {ws cs : List Char} (hnodup : entries.keys.Nodup)
      (hblank : Blank ws) (h : Writes (.members entries) cs) :
      Writes (.value (.map entries)) ('\x7b' :: (ws ++ (cs ++ ['\x7d'])))
  | lastItem {v : Value} {cs ws : List Char} (h : Writes (.value v) cs) (hblank : Blank ws) :
      Writes (.items [v]) (cs ++ ws)
  | item {v : Value} {vs : List Value} {cs ws ws' rest : List Char} (h : Writes (.value v) cs)
      (hblank : Blank ws) (hblank' : Blank ws') (hrest : Writes (.items vs) rest) :
      Writes (.items (v :: vs)) (cs ++ (ws ++ ',' :: (ws' ++ rest)))
  | lastMember {key : String} {v : Value} {spelling ws ws' cs after : List Char}
      (hkey : Spells key.toList spelling) (hblank : Blank ws) (hblank' : Blank ws')
      (h : Writes (.value v) cs) (hafter : Blank after) :
      Writes (.members [(key, v)]) ('"' :: (spelling ++ '"' :: (ws ++ ':' :: (ws' ++ (cs ++ after)))))
  | member {key : String} {v : Value} {entries : Entries Value}
      {spelling ws ws' cs after after' rest : List Char} (hkey : Spells key.toList spelling)
      (hblank : Blank ws) (hblank' : Blank ws') (h : Writes (.value v) cs) (hafter : Blank after)
      (hafter' : Blank after') (hrest : Writes (.members entries) rest) :
      Writes (.members ((key, v) :: entries))
        ('"' :: (spelling ++ '"' :: (ws ++ ':' :: (ws' ++ (cs ++ (after ++ ',' :: (after' ++ rest)))))))

/-! ## Where tokens begin and end -/

section

variable {ws rest : List Char} {c : Char}

/-- White space is skipped. -/
theorem skip_blank (hblank : Blank ws) (hc : isSpace c = false) : skip (ws ++ c :: rest) = c :: rest := by
  rw [skip, List.dropWhile_append_of_pos hblank, List.dropWhile_cons, hc]
  rfl

/-- A value ends before a comma or a closing bracket. -/
theorem ends_of_blank (hblank : Blank ws) (hc : c ∈ [',', ']', '\x7d']) : Ends (ws ++ c :: rest) := by
  intro d hd
  cases ws with
  | nil =>
    cases hd
    exact .inr hc
  | cons w ws =>
    cases hd
    exact .inl (hblank _ List.mem_cons_self)

theorem ends_blank (hblank : Blank ws) : Ends ws := by
  intro c hc
  exact .inl (hblank c (List.mem_of_mem_head? hc))

end

/-- Whether a value may begin with a character. -/
def Begins (c : Char) : Prop := c ∈ ['"', '[', '\x7b', 'n', 't', 'f', '-'] ∨ c.isDigit = true

theorem Begins.spec {c : Char} (h : Begins c) :
    isSpace c = false ∧ c ≠ ']' ∧ c ≠ '\x7d' ∧ c ≠ '\uFEFF' ∧ Text.isBlank c = false := by
  rcases h with hmem | hdigit
  · simp only [List.mem_cons, List.not_mem_nil, or_false] at hmem
    rcases hmem with rfl | rfl | rfl | rfl | rfl | rfl | rfl <;> decide
  · refine ⟨?_, ?_, ?_, ?_, Text.isBlank_of_isDigit hdigit⟩
    · simp only [isSpace, Bool.or_eq_false_iff, decide_eq_false_iff_not]
      refine ⟨⟨⟨?_, ?_⟩, ?_⟩, ?_⟩ <;> rintro rfl <;> cases hdigit
    all_goals
      rintro rfl
      cases hdigit

/-- A text begins with a character that a value may begin with. -/
theorem Writes.exists_begins {content : Content} {cs : List Char} (h : Writes content cs) :
    ∃ c rest, cs = c :: rest ∧ Begins c := by
  induction h with
  | @int n hshort =>
    cases n with
    | ofNat n =>
      obtain ⟨d, ds, hds⟩ := List.exists_cons_of_ne_nil (Nat.toDigits_ne_nil (n := n) (b := 10))
      exact ⟨d, ds, hds, .inr (isDigit_of_mem (n := n) (hds ▸ List.mem_cons_self))⟩
    | negSucc n => exact ⟨'-', _, rfl, .inl (by decide)⟩
  | lastItem _ _ ih =>
    obtain ⟨c, rest, rfl, hc⟩ := ih
    exact ⟨c, _, rfl, hc⟩
  | item _ _ _ _ ih =>
    obtain ⟨c, rest, rfl, hc⟩ := ih
    exact ⟨c, _, rfl, hc⟩
  | _ => exact ⟨_, _, rfl, .inl (by decide)⟩

theorem Writes.skip_blank {content : Content} {cs ws : List Char} (h : Writes content cs)
    (hblank : Blank ws) (rest : List Char) : skip (ws ++ (cs ++ rest)) = cs ++ rest := by
  obtain ⟨c, tail, rfl, hc⟩ := h.exists_begins
  exact Json.skip_blank hblank hc.spec.1

theorem Writes.append_ne {content : Content} {cs : List Char} (h : Writes content cs)
    (rest left : List Char) : cs ++ rest ≠ ']' :: left ∧ cs ++ rest ≠ '\x7d' :: left := by
  obtain ⟨c, tail, rfl, hc⟩ := h.exists_begins
  obtain ⟨-, hbracket, hbrace, -⟩ := hc.spec
  exact ⟨fun heq => hbracket (List.cons.inj heq).1, fun heq => hbrace (List.cons.inj heq).1⟩

/-! ## Reading texts -/

/-- That the reader gets what a text writes, if so many lists and maps may still stand in each other. -/
def Content.IsRead (depth : Nat) (cs : List Char) : Content → Prop
  | value v => ∀ rest, Ends rest → Goes .value depth (cs ++ rest) (.ok (v, rest))
  | items vs => ∀ before rest,
      Goes (.items before) depth (cs ++ ']' :: rest) (.ok (.list (before.reverse ++ vs), rest))
  | members entries => ∀ before rest, (before ++ entries).keys.Nodup →
      Goes (.members before) depth (cs ++ '\x7d' :: rest) (.ok (.map (before ++ entries), rest))

/-- That the reader refuses a text since lists and maps stand in each other too deep. -/
def Content.IsTooDeep (depth : Nat) (cs : List Char) : Content → Prop
  | value _ => ∀ rest, Ends rest → ∃ what, Goes .value depth (cs ++ rest) (.error (.deep what))
  | items _ => ∀ before rest, ∃ what, Goes (.items before) depth (cs ++ ']' :: rest) (.error (.deep what))
  | members _ => ∀ before rest, ∃ what,
      Goes (.members before) depth (cs ++ '\x7d' :: rest) (.error (.deep what))

theorem scalar_of_spells {s : String} {spelling : List Char} (h : Spells s.toList spelling)
    (rest : List Char) : scalar ('"' :: (spelling ++ '"' :: rest)) = .ok (.str s, rest) := by
  rw [scalar, string_of_spells h, List.reverse_nil, List.nil_append, String.ofList_toList]

theorem string_key {key : String} {spelling : List Char} (h : Spells key.toList spelling)
    (rest : List Char) :
    string ('"' :: (spelling ++ '"' :: rest)) [] (spelling ++ '"' :: rest) = .ok (key, rest) := by
  rw [string_of_spells h, List.reverse_nil, List.nil_append, String.ofList_toList]

/-- No integer is read where a list or a map begins. -/
theorem scalar_ne_int_of_opens {what : Nesting} {cs rest : List Char} {n : Int} (h : Opens what cs) :
    scalar cs ≠ .ok (.int n, rest) := by
  cases h <;> exact fun heq => by cases heq

/-- A key that is not there yet is put at the end. -/
theorem put_next {before entries : Entries Value} {key : String} {v : Value}
    (h : (before ++ (key, v) :: entries).keys.Nodup) :
    before.put key v ++ entries = before ++ (key, v) :: entries := by
  rw [Entries.keys, List.map_append, List.nodup_append] at h
  have hnew : key ∉ before.keys := fun hmem => h.2.2 key hmem key List.mem_cons_self rfl
  rw [Entries.put_of_notMem hnew, List.append_assoc]
  rfl

/-- Within the bound, the reader gets what a text writes. -/
theorem Writes.isRead {content : Content} {cs : List Char} (h : Writes content cs) {depth : Nat}
    (hdepth : content.depth ≤ depth) : content.IsRead depth cs := by
  induction h generalizing depth with
  | null | yes | no =>
    intro rest _
    refine Goes.scalar ?_
    rintro _ ⟨⟩
  | int hshort =>
    intro rest hends
    rw [← scalar_intChars hshort hends]
    refine Goes.scalar ?_
    intro what hopens
    exact absurd (scalar_intChars hshort hends) (scalar_ne_int_of_opens hopens)
  | str h =>
    intro rest _
    rw [List.cons_append, List.append_assoc, List.singleton_append, ← scalar_of_spells h]
    refine Goes.scalar ?_
    rintro _ ⟨⟩
  | noItems hblank =>
    intro rest _
    obtain ⟨depth, rfl⟩ := Nat.exists_eq_succ_of_ne_zero (Nat.ne_of_gt hdepth)
    rw [List.cons_append, List.append_assoc]
    exact .noItems (Json.skip_blank hblank (by decide))
  | noMembers hblank =>
    intro rest _
    obtain ⟨depth, rfl⟩ := Nat.exists_eq_succ_of_ne_zero (Nat.ne_of_gt hdepth)
    rw [List.cons_append, List.append_assoc]
    exact .noMembers (Json.skip_blank hblank (by decide))
  | @list vs ws cs hblank hitems ih =>
    intro rest _
    obtain ⟨depth, rfl⟩ := Nat.exists_eq_succ_of_ne_zero (Nat.ne_zero_of_lt hdepth)
    rw [List.cons_append, List.append_assoc, List.append_assoc, List.singleton_append]
    refine .list (fun left => ?_) ?_ <;> rw [hitems.skip_blank hblank]
    · exact (hitems.append_ne _ left).1
    · exact ih (Nat.le_of_succ_le_succ hdepth) [] rest
  | @map entries ws cs hnodup hblank hmembers ih =>
    intro rest _
    obtain ⟨depth, rfl⟩ := Nat.exists_eq_succ_of_ne_zero (Nat.ne_zero_of_lt hdepth)
    rw [List.cons_append, List.append_assoc, List.append_assoc, List.singleton_append]
    refine .map (fun left => ?_) ?_ <;> rw [hmembers.skip_blank hblank]
    · exact (hmembers.append_ne _ left).2
    · exact ih (Nat.le_of_succ_le_succ hdepth) [] rest hnodup
  | @lastItem v cs ws h hblank ih =>
    intro before rest
    have hread := ih ((Nat.le_max_left _ _).trans hdepth) (ws ++ ']' :: rest)
      (ends_of_blank hblank (by decide))
    rw [List.append_assoc, ← List.reverse_cons]
    exact .lastItem hread (Json.skip_blank hblank (by decide))
  | @item v vs cs ws ws' more h hblank hblank' hrest ih ihrest =>
    intro before rest
    have hread := ih ((Nat.le_max_left _ _).trans hdepth) (ws ++ ',' :: (ws' ++ (more ++ ']' :: rest)))
      (ends_of_blank hblank (by decide))
    have hmore := ihrest ((Nat.le_max_right _ _).trans hdepth) (v :: before) rest
    rw [List.reverse_cons, List.append_assoc] at hmore
    simp only [List.append_assoc, List.cons_append]
    refine .item hread (Json.skip_blank hblank (by decide)) ?_
    rw [hrest.skip_blank hblank']
    exact hmore
  | @lastMember key v spelling ws ws' cs after hkey hblank hblank' h hafter ih =>
    intro before rest hnodup
    have hread := ih ((Nat.le_max_left _ _).trans hdepth) (after ++ '\x7d' :: rest)
      (ends_of_blank hafter (by decide))
    rw [← h.skip_blank hblank'] at hread
    rw [← put_next hnodup, List.append_nil]
    simp only [List.append_assoc, List.cons_append]
    exact .lastMember (string_key hkey _) (Json.skip_blank hblank (by decide)) hread
      (Json.skip_blank hafter (by decide))
  | @member key v entries spelling ws ws' cs after after' more hkey hblank hblank' h hafter hafter' hrest
      ih ihrest =>
    intro before rest hnodup
    have hread := ih ((Nat.le_max_left _ _).trans hdepth)
      (after ++ ',' :: (after' ++ (more ++ '\x7d' :: rest))) (ends_of_blank hafter (by decide))
    rw [← h.skip_blank hblank'] at hread
    have hput := put_next hnodup
    have hmore := ihrest ((Nat.le_max_right _ _).trans hdepth) (before.put key v) rest
    rw [hput] at hmore
    simp only [List.append_assoc, List.cons_append]
    refine .member (string_key hkey _) (Json.skip_blank hblank (by decide)) hread
      (Json.skip_blank hafter (by decide)) ?_
    rw [hrest.skip_blank hafter']
    exact hmore hnodup

/-- What is deeper than the first of two numbers and not deeper than the other one is deeper than the
other. -/
theorem lt_of_lt_max {k m n : Nat} (h : k < max m n) (hm : m ≤ k) : k < n := by
  omega

/-- Beyond the bound, the reader stops at a list or a map that is too deep. -/
theorem Writes.isTooDeep {content : Content} {cs : List Char} (h : Writes content cs) {depth : Nat}
    (hdepth : depth < content.depth) : content.IsTooDeep depth cs := by
  induction h generalizing depth with
  | null | yes | no | int | str => cases hdepth
  | noItems hblank =>
    intro rest _
    obtain rfl := Nat.lt_one_iff.mp hdepth
    exact ⟨.list, .tooDeep (.list _)⟩
  | noMembers hblank =>
    intro rest _
    obtain rfl := Nat.lt_one_iff.mp hdepth
    exact ⟨.map, .tooDeep (.map _)⟩
  | list hblank hitems ih =>
    intro rest _
    cases depth with
    | zero => exact ⟨.list, .tooDeep (.list _)⟩
    | succ depth =>
      obtain ⟨what, hdeep⟩ := ih (Nat.lt_of_succ_lt_succ hdepth) [] rest
      rw [List.cons_append, List.append_assoc, List.append_assoc, List.singleton_append]
      refine ⟨what, .list (fun left => ?_) ?_⟩ <;> rw [hitems.skip_blank hblank]
      · exact (hitems.append_ne _ left).1
      · exact hdeep
  | map hnodup hblank hmembers ih =>
    intro rest _
    cases depth with
    | zero => exact ⟨.map, .tooDeep (.map _)⟩
    | succ depth =>
      obtain ⟨what, hdeep⟩ := ih (Nat.lt_of_succ_lt_succ hdepth) [] rest
      rw [List.cons_append, List.append_assoc, List.append_assoc, List.singleton_append]
      refine ⟨what, .map (fun left => ?_) ?_⟩ <;> rw [hmembers.skip_blank hblank]
      · exact (hmembers.append_ne _ left).2
      · exact hdeep
  | @lastItem v cs ws h hblank ih =>
    intro before rest
    have hv : depth < v.depth := (Nat.max_zero v.depth).symm ▸ hdepth
    obtain ⟨what, hdeep⟩ := ih hv (ws ++ ']' :: rest) (ends_of_blank hblank (by decide))
    rw [List.append_assoc]
    exact ⟨what, .itemFails hdeep⟩
  | @item v vs cs ws ws' more h hblank hblank' hrest ih ihrest =>
    intro before rest
    have hends : Ends (ws ++ ',' :: (ws' ++ (more ++ ']' :: rest))) := ends_of_blank hblank (by decide)
    simp only [List.append_assoc, List.cons_append]
    by_cases hv : v.depth ≤ depth
    · obtain ⟨what, hdeep⟩ := ihrest (lt_of_lt_max hdepth hv) (v :: before) rest
      refine ⟨what, .item (h.isRead hv _ hends) (Json.skip_blank hblank (by decide)) ?_⟩
      rw [hrest.skip_blank hblank']
      exact hdeep
    · obtain ⟨what, hdeep⟩ := ih (Nat.lt_of_not_le hv) _ hends
      exact ⟨what, .itemFails hdeep⟩
  | @lastMember key v spelling ws ws' cs after hkey hblank hblank' h hafter ih =>
    intro before rest
    have hv : depth < v.depth := (Nat.max_zero v.depth).symm ▸ hdepth
    obtain ⟨what, hdeep⟩ := ih hv (after ++ '\x7d' :: rest) (ends_of_blank hafter (by decide))
    rw [← h.skip_blank hblank'] at hdeep
    simp only [List.append_assoc, List.cons_append]
    exact ⟨what, .memberFails (string_key hkey _) (Json.skip_blank hblank (by decide)) hdeep⟩
  | @member key v entries spelling ws ws' cs after after' more hkey hblank hblank' h hafter hafter' hrest
      ih ihrest =>
    intro before rest
    have hends : Ends (after ++ ',' :: (after' ++ (more ++ '\x7d' :: rest))) :=
      ends_of_blank hafter (by decide)
    simp only [List.append_assoc, List.cons_append]
    by_cases hv : v.depth ≤ depth
    · have hread := h.isRead hv _ hends
      rw [← h.skip_blank hblank'] at hread
      obtain ⟨what, hdeep⟩ := ihrest (lt_of_lt_max hdepth hv) (before.put key v) rest
      refine ⟨what, .member (string_key hkey _) (Json.skip_blank hblank (by decide)) hread
        (Json.skip_blank hafter (by decide)) ?_⟩
      rw [hrest.skip_blank hafter']
      exact hdeep
    · obtain ⟨what, hdeep⟩ := ih (Nat.lt_of_not_le hv) _ hends
      rw [← h.skip_blank hblank'] at hdeep
      exact ⟨what, .memberFails (string_key hkey _) (Json.skip_blank hblank (by decide)) hdeep⟩

/-! ## Whole texts -/

/-- Whether a text writes a value, perhaps with white space around it. -/
def IsText (v : Value) (raw : String) : Prop :=
  ∃ ws cs ws', raw.toList = ws ++ (cs ++ ws') ∧ Blank ws ∧ Blank ws' ∧ Writes (.value v) cs

variable {v : Value} {raw : String}

/-- Some character of a text is no blank. -/
theorem IsText.isAllBlank_eq_false (h : IsText v raw) : Text.isAllBlank raw = false := by
  obtain ⟨ws, cs, ws', hraw, -, -, hwrites⟩ := h
  obtain ⟨c, rest, rfl, hc⟩ := hwrites.exists_begins
  rw [Text.isAllBlank, List.all_eq_false, hraw]
  refine ⟨c, by simp, Bool.eq_false_iff.mp hc.spec.2.2.2.2⟩

/-- No text begins with a byte order mark. -/
theorem Writes.append_ne_mark {ws cs : List Char} (h : Writes (.value v) cs) (hblank : Blank ws)
    (ws' rest : List Char) : ws ++ (cs ++ ws') ≠ '\uFEFF' :: rest := by
  intro heq
  obtain ⟨c, tail, rfl, hc⟩ := h.exists_begins
  cases ws with
  | nil => exact hc.spec.2.2.2.1 (List.cons.inj heq).1
  | cons w ws =>
    have hspace := hblank w List.mem_cons_self
    rw [(List.cons.inj heq).1] at hspace
    cases hspace

/-- The fuel that a text gets is enough. -/
theorem value_of_goes {ws cs ws' : List Char} {result : Step Value} (hblank : Blank ws)
    (hwrites : Writes (.value v) cs) (h : Goes .value maxDepth (cs ++ ws') result) :
    value (2 * (ws ++ (cs ++ ws')).length + 2) maxDepth (skip (ws ++ (cs ++ ws'))) = result := by
  have hfuel : Goal.value.fuel (cs ++ ws').length ≤ 2 * (ws ++ (cs ++ ws')).length + 2 := by
    simp only [Goal.fuel, List.length_append]
    omega
  rw [hwrites.skip_blank hblank]
  exact (run_eq_iff hfuel).mpr h

/-- A text is read as the value that it writes, if lists and maps do not stand too deep in each other, and
is refused otherwise. -/
theorem read_of_isText (h : IsText v raw) :
    (v.depth ≤ maxDepth → read raw = .ok v) ∧
      (maxDepth < v.depth → ∃ what, read raw = .error (.tooDeep what)) := by
  obtain ⟨ws, cs, ws', hraw, hblank, hblank', hwrites⟩ := h
  have hmark := hwrites.append_ne_mark hblank ws'
  rw [read, hraw, readChars.eq_def]
  constructor
  · intro hdepth
    have hgoes := hwrites.isRead hdepth ws' (ends_blank hblank')
    have hend : skip ws' = [] := List.dropWhile_eq_nil_iff.mpr hblank'
    split
    · next heq => exact absurd heq (hmark _)
    · rw [value_of_goes hblank hwrites hgoes]
      dsimp only
      rw [hend]
  · intro hdepth
    obtain ⟨what, hgoes⟩ := hwrites.isTooDeep hdepth ws' (ends_blank hblank')
    refine ⟨what, ?_⟩
    split
    · next heq => exact absurd heq (hmark _)
    · rw [value_of_goes hblank hwrites hgoes]
      rfl

end MachineCloud.Json
