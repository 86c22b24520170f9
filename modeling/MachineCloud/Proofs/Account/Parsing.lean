import MachineCloud.Account.Key
import MachineCloud.Proofs.Json.Obstacle

/-!
# Texts that are no keys

A text that is no service account key is refused as one, whatever is wrong with it: it may be empty, no
JSON, or lack what a key needs.  Only what keeps the JSON reader from going on without being wrong by the
standard is not dealt with, and passes through as it is (`parse_ok_or_refused_iff`).
-/

namespace MachineCloud

namespace Account.Key

/-- Whether a failure is the refusal of a text as a key. -/
def IsRefusal (failure : Failure) : Prop := ∃ fault, failure.fault = .key fault

variable {raw : String} {fault : Json.Fault}

/-- An obstacle passes through as it is. -/
theorem parse_of_obstructed (h : Json.Obstructed raw fault) : parse raw = .error (.of (.json fault)) := by
  obtain ⟨hread, hformed⟩ := Json.read_eq_error_iff.mpr h
  rw [parse, h.isAllBlank_eq_false, hread]
  cases fault with
  | malformed what place => exact absurd rfl (hformed what place)
  | tooManyDigits count => rfl
  | tooDeep what => rfl

/-- Without one, a text is a key or is refused as one. -/
theorem parse_ok_or_refused (h : ∀ fault, ¬ Json.Obstructed raw fault) :
    (∃ key, parse raw = .ok key) ∨ ∃ failure, parse raw = .error failure ∧ IsRefusal failure := by
  have hrefused (fault : KeyFault) (cause : Failure) :
      IsRefusal (.raisedFrom (.key fault) cause) := ⟨fault, Failure.fault_raisedFrom _ _⟩
  rw [parse]
  split
  · exact .inr ⟨_, rfl, _, rfl⟩
  · split
    · exact .inr ⟨_, rfl, hrefused _ _⟩
    · next fault hmalformed hread =>
      refine absurd (Json.read_eq_error_iff.mp ⟨hread, ?_⟩) (h fault)
      exact fun what place hfault => hmalformed what place hfault
    · split
      · exact .inl ⟨_, rfl⟩
      · exact .inr ⟨_, rfl, hrefused _ _⟩
    · exact .inr ⟨_, rfl, _, rfl⟩

/-- A text is a key or is refused as one exactly if the JSON reader comes to no integer with too many
digits, and to no list or map too deep in others.  Where it comes to one, this is what the failure says,
and not that the text is no key. -/
theorem parse_ok_or_refused_iff (raw : String) :
    (((∃ key, parse raw = .ok key) ∨ ∃ failure, parse raw = .error failure ∧ IsRefusal failure) ↔
      ∀ fault, ¬ Json.Obstructed raw fault) ∧
    ∀ fault, Json.Obstructed raw fault → parse raw = .error (.of (.json fault)) := by
  refine ⟨⟨?_, parse_ok_or_refused⟩, fun fault h => parse_of_obstructed h⟩
  intro h fault hobstructed
  rw [parse_of_obstructed hobstructed] at h
  rcases h with ⟨key, ⟨⟩⟩ | ⟨failure, hfailure, keyFault, hkey⟩
  cases hfailure
  cases hkey

/-- A map with an integer of one digit too many.  That it is no JSON, or no key, is not what is said. -/
theorem parse_ok_or_refused_iff_of_long :
    let raw := String.ofList (['\x7b', '"', 'n', '"', ':', ' '] ++ List.replicate 4301 '1' ++ ['\x7d'])
    parse raw = .error (.of (.json (.tooManyDigits 4301))) ∧
      ¬ ((∃ key, parse raw = .ok key) ∨ ∃ failure, parse raw = .error failure ∧ IsRefusal failure) := by
  intro raw
  have hobstructed : Json.Obstructed raw (.tooManyDigits 4301) := by
    have hlong : Json.BeginsLong (List.replicate 4301 '1' ++ ['\x7d']) 4301 := by
      refine ⟨_, _, .inl rfl, List.length_replicate, by decide, ?_, ?_, ?_, ?_⟩
      · intro c hc
        rw [List.eq_of_mem_replicate hc]
        rfl
      · rw [List.head?_replicate]
        decide
      · rintro c ⟨⟩
        rfl
      · intro hmore
        cases hmore
    have hkey (rest : List Char) :
        Json.string ('"' :: 'n' :: '"' :: rest) [] ('n' :: '"' :: rest) = .ok ("n", rest) := by
      simp [Json.string]
    refine ⟨984, _, ?_, .long hlong⟩
    rw [String.toList_ofList, List.append_assoc, show List.replicate 4301 '1' ++ ['\x7d'] =
      '1' :: (List.replicate 4300 '1' ++ ['\x7d']) from rfl]
    generalize List.replicate 4300 '1' ++ ['\x7d'] = digits
    refine .map ?_ (.member (hkey (':' :: ' ' :: '1' :: digits)) rfl (.here 984 ('1' :: digits)))
    intro left hempty
    cases hempty
  obtain ⟨hiff, hobstacle⟩ := parse_ok_or_refused_iff raw
  exact ⟨hobstacle _ hobstructed, fun h => hiff.mp h _ hobstructed⟩

end Account.Key

end MachineCloud
