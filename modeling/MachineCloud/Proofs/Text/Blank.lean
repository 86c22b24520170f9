import Mathlib.Data.List.DropRight
import MachineCloud.Text.Blank

/-!
# Trimming

Trimming leaves nothing of a text just if nothing but blanks is in it (`trim_eq_empty_iff`).  Otherwise
what it leaves does not end in a blank (`isBlank_of_getLast?_trim`).
-/

namespace MachineCloud

namespace Text

variable {p : Char → Bool} {cs : List Char} {c : Char} {s : String}

theorem dropEndWhile_eq_rdropWhile (p : Char → Bool) (cs : List Char) :
    dropEndWhile p cs = cs.rdropWhile p := rfl

/-- Nothing is cut off the end of a text if its last character stays. -/
theorem dropEndWhile_eq_self (h : ∀ c, cs.getLast? = some c → p c = false) :
    dropEndWhile p cs = cs := by
  rw [dropEndWhile_eq_rdropWhile, List.rdropWhile_eq_self_iff]
  intro hne
  rw [h _ (List.getLast?_eq_some_getLast hne)]
  exact Bool.false_ne_true

/-- The last character that is left is one that stays. -/
theorem eq_false_of_getLast?_dropEndWhile (h : (dropEndWhile p cs).getLast? = some c) :
    p c = false := by
  rw [dropEndWhile_eq_rdropWhile] at h
  have hne : cs.rdropWhile p ≠ [] := by
    intro hnil
    rw [hnil] at h
    cases h
  rw [List.getLast?_eq_some_getLast hne, Option.some.injEq] at h
  rw [← Bool.not_eq_true, ← h]
  exact List.rdropWhile_last_not p cs hne

/-- No digit is blank. -/
theorem isBlank_of_isDigit (h : c.isDigit = true) : isBlank c = false := by
  simp only [Char.isDigit, ge_iff_le, Bool.and_eq_true, decide_eq_true_eq,
    UInt32.le_iff_toNat_le] at h
  have hdigit : 48 ≤ c.toNat ∧ c.toNat ≤ 57 := h
  simp only [isBlank, isWhiteSpace, Bool.or_eq_false_iff, Bool.and_eq_false_iff, decide_eq_false_iff_not]
  omega

/-- Trimming leaves nothing of a text just if it is blank. -/
theorem trim_eq_empty_iff (s : String) : trim s = "" ↔ isAllBlank s = true := by
  have hempty : trim s = "" ↔ trimChars s.toList = [] := by
    rw [trim, ← String.toList_inj, String.toList_ofList, String.toList_empty]
  rw [hempty, trimChars, dropEndWhile_eq_rdropWhile, List.rdropWhile_eq_nil_iff, isAllBlank,
    List.all_eq_true]
  constructor
  · intro h c hc
    rw [← List.takeWhile_append_dropWhile (p := isBlank) (l := s.toList)] at hc
    rcases List.mem_append.mp hc with htake | hdrop
    · exact List.mem_takeWhile_imp htake
    · exact h c hdrop
  · intro h c hc
    exact h c ((List.dropWhile_sublist _).subset hc)

/-- What is left of a text does not end in a blank. -/
theorem isBlank_of_getLast?_trim (h : (trim s).toList.getLast? = some c) : isBlank c = false := by
  rw [trim, String.toList_ofList] at h
  exact eq_false_of_getLast?_dropEndWhile h

end Text

end MachineCloud
