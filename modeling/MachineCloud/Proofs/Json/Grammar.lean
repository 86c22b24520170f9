import MachineCloud.Proofs.Json.Scalar

/-!
# Reading without fuel

The reader of JSON carries fuel, which is enough for every text.  `Goes` tells without the fuel how it goes:
what it looks for, a value or the next items or members of what it is in, leads to a value and what is left
of the text, or to what is wrong.  With fuel for all the characters, this is just what the reader does
(`run_eq_iff`).  So a text is read as the value that the reader goes to from its start, if nothing is left
behind that (`read_eq_ok_iff`).
-/

namespace MachineCloud.Json

/-- What the reader looks for: a value, the next items of a list or the next members of a map, with those
before them as the reader has them. -/
inductive Goal where
  | value
  | items (before : List Value)
  | members (before : Entries Value)

/-- Reads what is looked for. -/
def Goal.run : Goal → Nat → Nat → List Char → Step Value
  | value, fuel, depth, cs => Json.value fuel depth cs
  | items before, fuel, depth, cs => Json.items fuel depth before cs
  | members before, fuel, depth, cs => Json.members fuel depth before cs

/-- The fuel that is enough for so many characters. -/
def Goal.fuel : Goal → Nat → Nat
  | value, n => 2 * n + 1
  | items _, n => 2 * n + 2
  | members _, n => 2 * n + 2

/-- How the reader goes.  The number says how many lists and maps may still stand in each other. -/
inductive Goes : Goal → Nat → List Char → Step Value → Prop
  | scalar {depth : Nat} {cs : List Char} (hopens : ∀ what, ¬ Opens what cs) :
      Goes .value depth cs (scalar cs)
  | tooDeep {what : Nesting} {cs : List Char} (hopens : Opens what cs) :
      Goes .value 0 cs (.error (.deep what))
  | noItems {depth : Nat} {rest left : List Char} (hend : skip rest = ']' :: left) :
      Goes .value (depth + 1) ('[' :: rest) (.ok (.list [], left))
  | list {depth : Nat} {rest : List Char} {result : Step Value}
      (hne : ∀ left, skip rest ≠ ']' :: left) (h : Goes (.items []) depth (skip rest) result) :
      Goes .value (depth + 1) ('[' :: rest) result
  | noMembers {depth : Nat} {rest left : List Char} (hend : skip rest = '\x7d' :: left) :
      Goes .value (depth + 1) ('\x7b' :: rest) (.ok (.map [], left))
  | map {depth : Nat} {rest : List Char} {result : Step Value}
      (hne : ∀ left, skip rest ≠ '\x7d' :: left) (h : Goes (.members []) depth (skip rest) result) :
      Goes .value (depth + 1) ('\x7b' :: rest) result
  | itemFails {depth : Nat} {before : List Value} {cs : List Char} {halt : Halt}
      (h : Goes .value depth cs (.error halt)) : Goes (.items before) depth cs (.error halt)
  | itemUnended {depth : Nat} {before : List Value} {cs left : List Char} {v : Value}
      (h : Goes .value depth cs (.ok (v, left))) (hend : ∀ rest, skip left ≠ ']' :: rest)
      (hnext : ∀ rest, skip left ≠ ',' :: rest) :
      Goes (.items before) depth cs (.error (.at .comma (skip left)))
  | lastItem {depth : Nat} {before : List Value} {cs left rest : List Char} {v : Value}
      (h : Goes .value depth cs (.ok (v, left))) (hend : skip left = ']' :: rest) :
      Goes (.items before) depth cs (.ok (.list (v :: before).reverse, rest))
  | item {depth : Nat} {before : List Value} {cs left rest : List Char} {v : Value}
      {result : Step Value} (h : Goes .value depth cs (.ok (v, left)))
      (hnext : skip left = ',' :: rest) (hrest : Goes (.items (v :: before)) depth (skip rest) result) :
      Goes (.items before) depth cs result
  | noKey {depth : Nat} {before : Entries Value} {cs : List Char} (hkey : ∀ rest, cs ≠ '"' :: rest) :
      Goes (.members before) depth cs (.error (.at .property cs))
  | keyFails {depth : Nat} {before : Entries Value} {cs : List Char} {halt : Halt}
      (hkey : string ('"' :: cs) [] cs = .error halt) :
      Goes (.members before) depth ('"' :: cs) (.error halt)
  | noColon {depth : Nat} {before : Entries Value} {cs left : List Char} {key : String}
      (hkey : string ('"' :: cs) [] cs = .ok (key, left)) (hcolon : ∀ rest, skip left ≠ ':' :: rest) :
      Goes (.members before) depth ('"' :: cs) (.error (.at .colon (skip left)))
  | memberFails {depth : Nat} {before : Entries Value} {cs left rest : List Char} {key : String}
      {halt : Halt} (hkey : string ('"' :: cs) [] cs = .ok (key, left))
      (hcolon : skip left = ':' :: rest) (h : Goes .value depth (skip rest) (.error halt)) :
      Goes (.members before) depth ('"' :: cs) (.error halt)
  | memberUnended {depth : Nat} {before : Entries Value} {cs left rest after : List Char}
      {key : String} {v : Value} (hkey : string ('"' :: cs) [] cs = .ok (key, left))
      (hcolon : skip left = ':' :: rest) (h : Goes .value depth (skip rest) (.ok (v, after)))
      (hend : ∀ rest, skip after ≠ '\x7d' :: rest) (hnext : ∀ rest, skip after ≠ ',' :: rest) :
      Goes (.members before) depth ('"' :: cs) (.error (.at .comma (skip after)))
  | lastMember {depth : Nat} {before : Entries Value} {cs left rest after rest' : List Char}
      {key : String} {v : Value} (hkey : string ('"' :: cs) [] cs = .ok (key, left))
      (hcolon : skip left = ':' :: rest) (h : Goes .value depth (skip rest) (.ok (v, after)))
      (hend : skip after = '\x7d' :: rest') :
      Goes (.members before) depth ('"' :: cs) (.ok (.map (before.put key v), rest'))
  | member {depth : Nat} {before : Entries Value} {cs left rest after rest' : List Char}
      {key : String} {v : Value} {result : Step Value}
      (hkey : string ('"' :: cs) [] cs = .ok (key, left)) (hcolon : skip left = ':' :: rest)
      (h : Goes .value depth (skip rest) (.ok (v, after))) (hnext : skip after = ',' :: rest')
      (hrest : Goes (.members (before.put key v)) depth (skip rest') result) :
      Goes (.members before) depth ('"' :: cs) result

/-! ## What is left -/

theorem length_skip_le (cs : List Char) : (skip cs).length ≤ cs.length :=
  (List.dropWhile_sublist isSpace).length_le

/-- A character behind white space is a character. -/
theorem length_lt_of_skip {cs rest : List Char} {c : Char} (h : skip cs = c :: rest) :
    rest.length < cs.length := by
  have hskip := length_skip_le cs
  rw [h] at hskip
  exact hskip

/-- The value of a member is behind its key. -/
theorem length_lt_of_colon {cs left rest : List Char} {key : String}
    (hkey : string ('"' :: cs) [] cs = .ok (key, left)) (hcolon : skip left = ':' :: rest) :
    (skip rest).length < cs.length :=
  (length_skip_le rest).trans_lt ((length_lt_of_skip hcolon).trans (length_string_lt hkey))

/-- Reading takes at least one character. -/
theorem Goes.length_lt {goal : Goal} {depth : Nat} {cs left : List Char} {v : Value}
    (h : Goes goal depth cs (.ok (v, left))) : left.length < cs.length := by
  generalize hresult : (Except.ok (v, left) : Step Value) = result at h
  induction h generalizing v left with
  | scalar _ => exact length_scalar_lt hresult.symm
  | noItems hend =>
    cases hresult
    exact (length_lt_of_skip hend).trans (Nat.lt_succ_self _)
  | noMembers hend =>
    cases hresult
    exact (length_lt_of_skip hend).trans (Nat.lt_succ_self _)
  | list _ _ ih => exact ((ih hresult).trans_le (length_skip_le _)).trans (Nat.lt_succ_self _)
  | map _ _ ih => exact ((ih hresult).trans_le (length_skip_le _)).trans (Nat.lt_succ_self _)
  | lastItem _ hend ih =>
    cases hresult
    exact (length_lt_of_skip hend).trans (ih rfl)
  | item _ hnext _ ih ihrest =>
    exact ((ihrest hresult).trans_le (length_skip_le _)).trans ((length_lt_of_skip hnext).trans (ih rfl))
  | lastMember hkey hcolon _ hend ih =>
    cases hresult
    have hafter := (ih rfl).trans (length_lt_of_colon hkey hcolon)
    exact ((length_lt_of_skip hend).trans hafter).trans (Nat.lt_succ_self _)
  | member hkey hcolon _ hnext _ ih ihrest =>
    have hafter := (ih rfl).trans (length_lt_of_colon hkey hcolon)
    have hrest := ((ihrest hresult).trans_le (length_skip_le _)).trans (length_lt_of_skip hnext)
    exact (hrest.trans hafter).trans (Nat.lt_succ_self _)
  | _ => cases hresult

/-! ## The reader -/

theorem value_list (fuel depth : Nat) (rest : List Char) :
    value (fuel + 1) (depth + 1) ('[' :: rest) =
      match skip rest with
      | ']' :: left => .ok (.list [], left)
      | left => items fuel depth [] left := rfl

theorem value_map (fuel depth : Nat) (rest : List Char) :
    value (fuel + 1) (depth + 1) ('\x7b' :: rest) =
      match skip rest with
      | '\x7d' :: left => .ok (.map [], left)
      | left => members fuel depth [] left := rfl

theorem value_of_opens {what : Nesting} {cs : List Char} (h : Opens what cs) (fuel : Nat) :
    value (fuel + 1) 0 cs = .error (.deep what) := by
  cases h <;> rfl

theorem items_succ (fuel depth : Nat) (before : List Value) (cs : List Char) :
    items (fuel + 1) depth before cs =
      match value fuel depth cs with
      | .error halt => .error halt
      | .ok (v, left) =>
        match skip left with
        | ']' :: rest => .ok (.list (v :: before).reverse, rest)
        | ',' :: rest => items fuel depth (v :: before) (skip rest)
        | left => .error (.at .comma left) := rfl

theorem members_of_key (fuel depth : Nat) (before : Entries Value) (cs : List Char) :
    members (fuel + 1) depth before ('"' :: cs) =
      match string ('"' :: cs) [] cs with
      | .error halt => .error halt
      | .ok (key, left) =>
        match skip left with
        | ':' :: rest =>
          match value fuel depth (skip rest) with
          | .error halt => .error halt
          | .ok (v, left) =>
            match skip left with
            | '\x7d' :: rest => .ok (.map (before.put key v), rest)
            | ',' :: rest => members fuel depth (before.put key v) (skip rest)
            | left => .error (.at .comma left)
        | left => .error (.at .colon left) := rfl

theorem members_of_not_key (fuel depth : Nat) (before : Entries Value) {cs : List Char}
    (h : ∀ rest, cs ≠ '"' :: rest) :
    members (fuel + 1) depth before cs = .error (.at .property cs) := by
  rw [members.eq_def]
  dsimp only
  split
  · exact absurd rfl (h _)
  · rfl

/-- Whether so much fuel lets the reader go its way where it is enough. -/
def Suffices (fuel : Nat) : Prop :=
  ∀ (goal : Goal) (depth : Nat) (cs : List Char), goal.fuel cs.length ≤ fuel →
    Goes goal depth cs (goal.run fuel depth cs)

section

variable {fuel depth : Nat} {cs : List Char}

theorem Suffices.value (h : Suffices fuel) (hfuel : 2 * cs.length + 1 ≤ fuel + 1) :
    Goes .value depth cs (value (fuel + 1) depth cs) := by
  by_cases hopens : ∃ what, Opens what cs
  · obtain ⟨what, hopens⟩ := hopens
    cases depth with
    | zero =>
      rw [value_of_opens hopens]
      exact .tooDeep hopens
    | succ depth =>
      cases hopens with
      | list rest =>
        have hrest : Goal.fuel (.items []) (skip rest).length ≤ fuel := by
          have hskip := length_skip_le rest
          simp only [Goal.fuel, List.length_cons] at hfuel ⊢
          omega
        rw [value_list]
        split
        · next hend => exact .noItems hend
        · next hne => exact .list (fun left hleft => hne left hleft) (h _ depth _ hrest)
      | map rest =>
        have hrest : Goal.fuel (.members []) (skip rest).length ≤ fuel := by
          have hskip := length_skip_le rest
          simp only [Goal.fuel, List.length_cons] at hfuel ⊢
          omega
        rw [value_map]
        split
        · next hend => exact .noMembers hend
        · next hne => exact .map (fun left hleft => hne left hleft) (h _ depth _ hrest)
  · have hopens := not_exists.mp hopens
    rw [value_of_not_opens hopens]
    exact .scalar hopens

theorem Suffices.items (h : Suffices fuel) (hfuel : 2 * cs.length + 2 ≤ fuel + 1)
    (before : List Value) : Goes (.items before) depth cs (items (fuel + 1) depth before cs) := by
  have hvalue : Goes .value depth cs (Json.value fuel depth cs) :=
    h .value depth cs (Nat.le_of_succ_le_succ hfuel)
  rw [items_succ]
  split
  · next hfails =>
    rw [hfails] at hvalue
    exact .itemFails hvalue
  · next v left hread =>
    rw [hread] at hvalue
    split
    · next hend => exact .lastItem hvalue hend
    · next rest hnext =>
      refine .item hvalue hnext (h _ depth _ ?_)
      have hlength := hvalue.length_lt
      have hcomma := length_lt_of_skip hnext
      have hskip := length_skip_le rest
      simp only [Goal.fuel]
      omega
    · next hend hnext => exact .itemUnended hvalue (fun _ h => hend _ h) fun _ h => hnext _ h

theorem Suffices.members (h : Suffices fuel) (hfuel : 2 * cs.length + 2 ≤ fuel + 1)
    (before : Entries Value) :
    Goes (.members before) depth cs (members (fuel + 1) depth before cs) := by
  by_cases hquote : ∃ rest, cs = '"' :: rest
  · obtain ⟨cs, rfl⟩ := hquote
    rw [List.length_cons] at hfuel
    rw [members_of_key]
    split
    · next hkey => exact .keyFails hkey
    · next key left hkey =>
      split
      · next rest hcolon =>
        have hbehind := length_lt_of_colon hkey hcolon
        have hvalue : Goes .value depth (skip rest) (Json.value fuel depth (skip rest)) := by
          refine h .value depth _ ?_
          simp only [Goal.fuel]
          omega
        split
        · next hfails =>
          rw [hfails] at hvalue
          exact .memberFails hkey hcolon hvalue
        · next v after hread =>
          rw [hread] at hvalue
          split
          · next hend => exact .lastMember hkey hcolon hvalue hend
          · next rest' hnext =>
            refine .member hkey hcolon hvalue hnext (h _ depth _ ?_)
            have hlength := hvalue.length_lt
            have hcomma := length_lt_of_skip hnext
            have hskip := length_skip_le rest'
            simp only [Goal.fuel]
            omega
          · next hend hnext =>
            exact .memberUnended hkey hcolon hvalue (fun _ h => hend _ h) fun _ h => hnext _ h
      · next hcolon => exact .noColon hkey fun _ h => hcolon _ h
  · have hquote := not_exists.mp hquote
    rw [members_of_not_key fuel depth before hquote]
    exact .noKey hquote

end

/-- The fuel that is enough for the characters always suffices. -/
theorem suffices_all (fuel : Nat) : Suffices fuel := by
  induction fuel with
  | zero =>
    intro goal depth cs hfuel
    cases goal <;> cases hfuel
  | succ fuel ih =>
    intro goal depth cs hfuel
    cases goal with
    | value => exact ih.value hfuel
    | items before => exact ih.items hfuel before
    | members before => exact ih.members hfuel before

/-- The reader goes no other way. -/
theorem Goes.unique {goal : Goal} {depth : Nat} {cs : List Char} {result result' : Step Value}
    (h : Goes goal depth cs result) (h' : Goes goal depth cs result') : result = result' := by
  induction h generalizing result' with
  | scalar hopens =>
    cases h' with
    | scalar => rfl
    | tooDeep hopens' => exact absurd hopens' (hopens _)
    | noItems | list => exact absurd (.list _) (hopens _)
    | noMembers | map => exact absurd (.map _) (hopens _)
  | tooDeep hopens =>
    cases h' with
    | scalar hopens' => exact absurd hopens (hopens' _)
    | tooDeep hopens' => cases hopens <;> cases hopens' <;> rfl
  | noItems hend =>
    cases h' with
    | scalar hopens => exact absurd (.list _) (hopens _)
    | noItems hend' =>
      cases hend.symm.trans hend'
      rfl
    | list hne => exact absurd hend (hne _)
  | noMembers hend =>
    cases h' with
    | scalar hopens => exact absurd (.map _) (hopens _)
    | noMembers hend' =>
      cases hend.symm.trans hend'
      rfl
    | map hne => exact absurd hend (hne _)
  | list hne _ ih =>
    cases h' with
    | scalar hopens => exact absurd (.list _) (hopens _)
    | noItems hend => exact absurd hend (hne _)
    | list _ h' => exact ih h'
  | map hne _ ih =>
    cases h' with
    | scalar hopens => exact absurd (.map _) (hopens _)
    | noMembers hend => exact absurd hend (hne _)
    | map _ h' => exact ih h'
  | itemFails _ ih => cases h' <;> grind
  | itemUnended _ hend hnext ih => cases h' <;> grind
  | lastItem _ hend ih => cases h' <;> grind
  | item _ hnext _ ih ihrest => cases h' <;> grind
  | noKey hkey => cases h' <;> grind
  | keyFails hkey => cases h' <;> grind
  | noColon hkey hcolon => cases h' <;> grind
  | memberFails hkey hcolon _ ih => cases h' <;> grind
  | memberUnended hkey hcolon _ hend hnext ih => cases h' <;> grind
  | lastMember hkey hcolon _ hend ih => cases h' <;> grind
  | member hkey hcolon _ hnext _ ih ihrest => cases h' <;> grind

/-- With enough fuel, what the reader comes to is where it goes. -/
theorem run_eq_iff {goal : Goal} {fuel depth : Nat} {cs : List Char} {result : Step Value}
    (hfuel : goal.fuel cs.length ≤ fuel) :
    goal.run fuel depth cs = result ↔ Goes goal depth cs result := by
  have hgoes := suffices_all fuel goal depth cs hfuel
  constructor
  · rintro rfl
    exact hgoes
  · exact hgoes.unique

/-! ## Whole texts -/

/-- Whether the reader goes through a text to a value and leaves nothing but white space.  A byte order
mark is in its way. -/
def IsReadAs (v : Value) (s : String) : Prop :=
  s.toList.head? ≠ some '\uFEFF' ∧
    ∃ left, Goes .value maxDepth (skip s.toList) (.ok (v, left)) ∧ skip left = []

/-- Reading a text gives just the value that the reader goes to. -/
theorem read_eq_ok_iff {s : String} {v : Value} : read s = .ok v ↔ IsReadAs v s := by
  have hfuel : Goal.value.fuel (skip s.toList).length ≤ 2 * s.toList.length + 2 := by
    have hskip := length_skip_le s.toList
    simp only [Goal.fuel]
    omega
  rw [read, IsReadAs]
  generalize s.toList = cs at hfuel ⊢
  have hgoes (left : List Char) : Goes .value maxDepth (skip cs) (.ok (v, left)) ↔
      value (2 * cs.length + 2) maxDepth (skip cs) = .ok (v, left) := (run_eq_iff hfuel).symm
  simp only [hgoes]
  rw [readChars.eq_def]
  split
  · next rest => simp
  · next hmark =>
    have hstart : cs.head? ≠ some '\uFEFF' := by
      rw [ne_eq, List.head?_eq_some_iff]
      rintro ⟨rest, hrest⟩
      exact hmark rest hrest
    constructor
    · intro h
      split at h
      · cases h
      · next w left hvalue =>
        split at h
        · next hend =>
          obtain rfl := Except.ok.inj h
          exact ⟨hstart, left, hvalue, hend⟩
        · cases h
    · rintro ⟨-, left, hvalue, hend⟩
      rw [hvalue]
      dsimp only
      rw [hend]

end MachineCloud.Json
