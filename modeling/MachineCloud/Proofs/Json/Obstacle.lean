import MachineCloud.Proofs.Json.Grammar

/-!
# What keeps the reader from going on

The reader stops at the first thing that is wrong with a text.  Two things that it stops at are not wrong
by the standard: an integer with too many digits, and a list or map too deep in others.  It stops at one
of them just if it comes to it, that is, if everything before it can be read (`read_eq_error_iff`).
-/

namespace MachineCloud.Json

/-- The places at which the reader looks for a value on its way, with the number of lists and maps that may
still stand in each other there.  It comes to a place behind a value only if it can read that value. -/
inductive Comes : Goal → Nat → List Char → Nat → List Char → Prop
  | here (depth : Nat) (cs : List Char) : Comes .value depth cs depth cs
  | list {depth d : Nat} {rest place : List Char} (hne : ∀ left, skip rest ≠ ']' :: left)
      (h : Comes (.items []) depth (skip rest) d place) : Comes .value (depth + 1) ('[' :: rest) d place
  | map {depth d : Nat} {rest place : List Char} (hne : ∀ left, skip rest ≠ '\x7d' :: left)
      (h : Comes (.members []) depth (skip rest) d place) :
      Comes .value (depth + 1) ('\x7b' :: rest) d place
  | item {depth d : Nat} {before : List Value} {cs place : List Char}
      (h : Comes .value depth cs d place) : Comes (.items before) depth cs d place
  | laterItem {depth d : Nat} {before : List Value} {cs left rest place : List Char} {v : Value}
      (hread : Goes .value depth cs (.ok (v, left))) (hnext : skip left = ',' :: rest)
      (h : Comes (.items (v :: before)) depth (skip rest) d place) :
      Comes (.items before) depth cs d place
  | member {depth d : Nat} {before : Entries Value} {cs left rest place : List Char} {key : String}
      (hkey : string ('"' :: cs) [] cs = .ok (key, left)) (hcolon : skip left = ':' :: rest)
      (h : Comes .value depth (skip rest) d place) : Comes (.members before) depth ('"' :: cs) d place
  | laterMember {depth d : Nat} {before : Entries Value} {cs left rest after rest' place : List Char}
      {key : String} {v : Value} (hkey : string ('"' :: cs) [] cs = .ok (key, left))
      (hcolon : skip left = ':' :: rest) (hread : Goes .value depth (skip rest) (.ok (v, after)))
      (hnext : skip after = ',' :: rest')
      (h : Comes (.members (before.put key v)) depth (skip rest') d place) :
      Comes (.members before) depth ('"' :: cs) d place

/-- What stands in the way at a place although it is not wrong by the standard. -/
inductive Obstructs : Nat → List Char → Fault → Prop
  | long {depth count : Nat} {place : List Char} (h : BeginsLong place count) :
      Obstructs depth place (.tooManyDigits count)
  | deep {what : Nesting} {place : List Char} (h : Opens what place) :
      Obstructs 0 place (.tooDeep what)

/-- The fault of a halt that is no matter of what the standard says. -/
def Halt.obstacle? : Halt → Option Fault
  | .at _ _ => none
  | .digits count => some (.tooManyDigits count)
  | .deep what => some (.tooDeep what)

/-- Such a fault is what is reported in the end. -/
theorem Halt.fault_of_obstacle? {halt : Halt} {fault : Fault} (h : halt.obstacle? = some fault)
    (text : List Char) : halt.fault text = fault := by
  cases halt with
  | «at» what left => cases h
  | digits count =>
    cases h
    rfl
  | deep what =>
    cases h
    rfl

/-- All other faults are those of malformed texts. -/
theorem Halt.obstacle?_of_fault {halt : Halt} {fault : Fault} {text : List Char}
    (h : halt.fault text = fault) (hformed : ∀ what place, fault ≠ .malformed what place) :
    halt.obstacle? = some fault := by
  cases halt with
  | «at» what left => exact absurd h.symm (hformed _ _)
  | digits count => exact congrArg some h
  | deep what => exact congrArg some h

/-! ## Stopping -/

/-- At an obstacle, no value is read. -/
theorem Obstructs.goes {depth : Nat} {place : List Char} {fault : Fault}
    (h : Obstructs depth place fault) :
    ∃ halt : Halt, halt.obstacle? = some fault ∧ Goes .value depth place (.error halt) := by
  cases h with
  | @long depth count place h =>
    have hopens (what : Nesting) : ¬ Opens what place := by
      obtain ⟨c, rest, rfl, hc⟩ := h.head
      intro hopens
      cases hopens <;> rcases hc with hc | hc <;> cases hc
    refine ⟨.digits count, rfl, ?_⟩
    rw [← scalar_of_beginsLong h]
    exact .scalar hopens
  | deep h => exact ⟨_, rfl, .tooDeep h⟩

/-- The reader stops where it comes to an obstacle. -/
theorem Comes.goes {goal : Goal} {depth d : Nat} {cs place : List Char} {halt : Halt}
    (h : Comes goal depth cs d place) (hhere : Goes .value d place (.error halt)) :
    Goes goal depth cs (.error halt) := by
  induction h with
  | here => exact hhere
  | list hne _ ih => exact .list hne (ih hhere)
  | map hne _ ih => exact .map hne (ih hhere)
  | item _ ih => exact .itemFails (ih hhere)
  | laterItem hread hnext _ ih => exact .item hread hnext (ih hhere)
  | member hkey hcolon _ ih => exact .memberFails hkey hcolon (ih hhere)
  | laterMember hkey hcolon hread hnext _ ih => exact .member hkey hcolon hread hnext (ih hhere)

/-- What the reader stops at although it is not wrong by the standard, it has come to. -/
theorem Goes.exists_comes {goal : Goal} {depth : Nat} {cs : List Char} {halt : Halt} {fault : Fault}
    (h : Goes goal depth cs (.error halt)) (hfault : halt.obstacle? = some fault) :
    ∃ d place, Comes goal depth cs d place ∧ Obstructs d place fault := by
  generalize hresult : (Except.error halt : Step Value) = result at h
  induction h with
  | @scalar depth cs hopens =>
    rcases scalar_error hresult.symm with ⟨what, left, rfl⟩ | ⟨count, rfl, hlong⟩
    · cases hfault
    · cases hfault
      exact ⟨depth, cs, .here depth cs, .long hlong⟩
  | @tooDeep what cs hopens =>
    cases hresult
    cases hfault
    exact ⟨0, cs, .here 0 cs, .deep hopens⟩
  | list hne _ ih =>
    obtain ⟨d, place, hcomes, hobstructs⟩ := ih hresult
    exact ⟨d, place, .list hne hcomes, hobstructs⟩
  | map hne _ ih =>
    obtain ⟨d, place, hcomes, hobstructs⟩ := ih hresult
    exact ⟨d, place, .map hne hcomes, hobstructs⟩
  | itemFails _ ih =>
    obtain ⟨d, place, hcomes, hobstructs⟩ := ih hresult
    exact ⟨d, place, .item hcomes, hobstructs⟩
  | item hread hnext _ _ ih =>
    obtain ⟨d, place, hcomes, hobstructs⟩ := ih hresult
    exact ⟨d, place, .laterItem hread hnext hcomes, hobstructs⟩
  | keyFails hkey =>
    cases hresult
    obtain ⟨what, left, rfl⟩ := string_error hkey
    cases hfault
  | memberFails hkey hcolon _ ih =>
    obtain ⟨d, place, hcomes, hobstructs⟩ := ih hresult
    exact ⟨d, place, .member hkey hcolon hcomes, hobstructs⟩
  | member hkey hcolon hread hnext _ _ ih =>
    obtain ⟨d, place, hcomes, hobstructs⟩ := ih hresult
    exact ⟨d, place, .laterMember hkey hcolon hread hnext hcomes, hobstructs⟩
  | itemUnended | noKey | noColon | memberUnended =>
    cases hresult
    cases hfault
  | noItems | noMembers | lastItem | lastMember => cases hresult

/-! ## Texts -/

/-- A text with an obstacle in its way begins with a digit, a minus sign or a bracket. -/
theorem Comes.head {depth d : Nat} {cs place : List Char} {fault : Fault}
    (h : Comes .value depth cs d place) (hobstructs : Obstructs d place fault) :
    ∃ c rest, cs = c :: rest ∧ (c ∈ ['-', '[', '\x7b'] ∨ c.isDigit = true) := by
  cases h with
  | here =>
    cases hobstructs with
    | long hlong =>
      obtain ⟨c, rest, rfl, hc⟩ := hlong.head
      exact ⟨c, rest, rfl, hc.imp_left fun hminus => List.mem_cons.mpr (.inl hminus)⟩
    | deep hopens => cases hopens <;> exact ⟨_, _, rfl, .inl (by decide)⟩
  | list => exact ⟨_, _, rfl, .inl (by decide)⟩
  | map => exact ⟨_, _, rfl, .inl (by decide)⟩

/-- Whether the reader comes to an obstacle in a text. -/
def Obstructed (s : String) (fault : Fault) : Prop :=
  ∃ d place, Comes .value maxDepth (skip s.toList) d place ∧ Obstructs d place fault

/-- Reading a text stops at an obstacle just if the reader comes to it. -/
theorem read_eq_error_iff {s : String} {fault : Fault} :
    (read s = .error fault ∧ ∀ what place, fault ≠ .malformed what place) ↔ Obstructed s fault := by
  have hfuel : Goal.value.fuel (skip s.toList).length ≤ 2 * s.toList.length + 2 := by
    have hskip := length_skip_le s.toList
    simp only [Goal.fuel]
    omega
  rw [read, Obstructed]
  generalize s.toList = cs at hfuel ⊢
  rw [readChars.eq_def]
  split
  · next rest =>
    constructor
    · rintro ⟨⟨⟩, hformed⟩
      exact absurd rfl (hformed _ _)
    · rintro ⟨d, place, hcomes, hobstructs⟩
      obtain ⟨c, left, hskip, hc⟩ := hcomes.head hobstructs
      cases hskip
      exact absurd hc (by decide)
  · constructor
    · rintro ⟨h, hformed⟩
      split at h
      · next halt hhalt =>
        have hrun : Goal.value.run (2 * cs.length + 2) maxDepth (skip cs) = .error halt := hhalt
        have hgoes := (run_eq_iff hfuel).mp hrun
        exact hgoes.exists_comes (Halt.obstacle?_of_fault (Except.error.inj h) hformed)
      · split at h
        · cases h
        · cases h
          exact absurd rfl (hformed _ _)
    · rintro ⟨d, place, hcomes, hobstructs⟩
      obtain ⟨halt, hfault, hhere⟩ := hobstructs.goes
      have hrun : Goal.value.run (2 * cs.length + 2) maxDepth (skip cs) = .error halt :=
        (run_eq_iff hfuel).mpr (hcomes.goes hhere)
      rw [Goal.run] at hrun
      rw [hrun]
      dsimp only
      rw [Halt.fault_of_obstacle? hfault]
      refine ⟨rfl, ?_⟩
      rintro what place rfl
      cases hobstructs

/-- A text with an obstacle in it is not blank. -/
theorem Obstructed.isAllBlank_eq_false {s : String} {fault : Fault} (h : Obstructed s fault) :
    Text.isAllBlank s = false := by
  obtain ⟨d, place, hcomes, hobstructs⟩ := h
  obtain ⟨c, rest, hskip, hc⟩ := hcomes.head hobstructs
  have hmem : c ∈ s.toList := by
    apply (List.dropWhile_sublist isSpace).mem
    rw [← skip, hskip]
    exact List.mem_cons_self
  have hblank : Text.isBlank c = false := by
    rcases hc with hc | hc
    · simp only [List.mem_cons, List.not_mem_nil, or_false] at hc
      rcases hc with rfl | rfl | rfl <;> rfl
    · exact Text.isBlank_of_isDigit hc
  rw [Text.isAllBlank, List.all_eq_false]
  exact ⟨c, hmem, Bool.eq_false_iff.mp hblank⟩

end MachineCloud.Json
