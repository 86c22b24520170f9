import MachineCloud.Proofs.Secret.Decoding
import MachineCloud.Proofs.Text.Blank
import MachineCloud.Proofs.Value.Equality

/-!
# Valid secrets

What a machine secret is read from, told without the reader: each value has a text, the fields are the
texts under their keys, some of them trimmed, and these have the forms of a project, a region and a
network.  The reader takes the data that holds a valid secret, comes to this secret, and lists what is
wrong with all other data (`ofData_spec`).

The reader's forms also admit a line feed at the end of a text.  That makes no difference, because the
texts are trimmed before (`isChomped_ofValues`).
-/

namespace MachineCloud

namespace MachineSecret

/-! ## Forms -/

/-- Whether a text consists of groups of hexadecimal digits of these lengths, joined by hyphens. -/
def IsHexGroups (lengths : List Nat) (cs : List Char) : Prop :=
  ∃ groups : List (List Char), groups.map List.length = lengths ∧
    (∀ group ∈ groups, ∀ c ∈ group, isHexDigit c = true) ∧ cs = ['-'].intercalate groups

/-- Whether a text is a UUID. -/
def IsUuid (s : String) : Prop := IsHexGroups [8, 4, 4, 4, 12] s.toList

/-- The regions: two letters and two digits, possibly with a number behind a hyphen. -/
inductive IsRegion : List Char → Prop
  | short {a b c d : Char} (hletters : ∀ x ∈ [a, b], 'a' ≤ x ∧ x ≤ 'z')
      (hdigits : ∀ x ∈ [c, d], Text.isDigit x = true) : IsRegion [a, b, c, d]
  | long {a b c d : Char} {number : List Char} (hletters : ∀ x ∈ [a, b], 'a' ≤ x ∧ x ≤ 'z')
      (hdigits : ∀ x ∈ [c, d], Text.isDigit x = true) (hne : number ≠ [])
      (hnumber : ∀ x ∈ number, Text.isDigit x = true) :
      IsRegion (a :: b :: c :: d :: '-' :: number)

/-- More than one group: the first one, and the others behind a hyphen. -/
theorem isHexGroups_cons_cons_iff {n m : Nat} {lengths : List Nat} {cs : List Char} :
    isHexGroups (n :: m :: lengths) cs = true ↔ ∃ group rest, cs = group ++ '-' :: rest ∧
      group.length = n ∧ (∀ c ∈ group, isHexDigit c = true) ∧
      isHexGroups (m :: lengths) rest = true := by
  rw [isHexGroups, Bool.and_eq_true, Bool.and_eq_true, decide_eq_true_eq, List.all_eq_true]
  constructor
  · rintro ⟨⟨hlength, hdigits⟩, hrest⟩
    split at hrest
    · next rest hdrop =>
      refine ⟨cs.take n, rest, ?_, hlength, hdigits, hrest⟩
      rw [← hdrop, List.take_append_drop]
    · cases hrest
  · rintro ⟨group, rest, rfl, rfl, hdigits, hrest⟩
    rw [List.take_left, List.drop_left]
    exact ⟨⟨rfl, hdigits⟩, hrest⟩
  · exact fun h => List.cons_ne_nil _ _ h

theorem IsHexGroups.singleton_iff {n : Nat} {cs : List Char} :
    IsHexGroups [n] cs ↔ cs.length = n ∧ ∀ c ∈ cs, isHexDigit c = true := by
  constructor
  · rintro ⟨groups, hlengths, hdigits, rfl⟩
    obtain ⟨group, rfl, rfl⟩ := List.map_eq_singleton_iff.mp hlengths
    rw [List.intercalate_singleton]
    exact ⟨rfl, hdigits group List.mem_cons_self⟩
  · rintro ⟨rfl, hdigits⟩
    refine ⟨[cs], rfl, ?_, List.intercalate_singleton.symm⟩
    rintro group hgroup
    rw [List.mem_singleton.mp hgroup]
    exact hdigits

theorem IsHexGroups.cons_cons_iff {n m : Nat} {lengths : List Nat} {cs : List Char} :
    IsHexGroups (n :: m :: lengths) cs ↔ ∃ group rest, cs = group ++ '-' :: rest ∧
      group.length = n ∧ (∀ c ∈ group, isHexDigit c = true) ∧ IsHexGroups (m :: lengths) rest := by
  have hjoin (group next : List Char) (others : List (List Char)) :
      ['-'].intercalate (group :: next :: others) =
        group ++ '-' :: ['-'].intercalate (next :: others) := by
    rw [List.intercalate_cons_cons, List.append_assoc, List.singleton_append]
  constructor
  · rintro ⟨groups, hlengths, hdigits, rfl⟩
    obtain ⟨group, others, rfl, rfl, hothers⟩ := List.map_eq_cons_iff.mp hlengths
    obtain ⟨next, others, rfl, -, -⟩ := List.map_eq_cons_iff.mp hothers
    obtain ⟨hgroup, hdigits⟩ := List.forall_mem_cons.mp hdigits
    exact ⟨group, _, hjoin group next others, rfl, hgroup, _, hothers, hdigits, rfl⟩
  · rintro ⟨group, rest, rfl, rfl, hgroup, groups, hlengths, hdigits, rfl⟩
    obtain ⟨next, others, rfl, -, -⟩ := List.map_eq_cons_iff.mp hlengths
    refine ⟨group :: next :: others, by rw [List.map_cons, hlengths], ?_, (hjoin _ _ _).symm⟩
    exact List.forall_mem_cons.mpr ⟨hgroup, hdigits⟩

/-- The reader finds the groups. -/
theorem isHexGroups_iff {lengths : List Nat} {cs : List Char} :
    isHexGroups lengths cs = true ↔ IsHexGroups lengths cs := by
  induction lengths generalizing cs with
  | nil =>
    rw [isHexGroups, List.isEmpty_iff]
    constructor
    · rintro rfl
      exact ⟨[], rfl, nofun, rfl⟩
    · rintro ⟨groups, hlengths, -, rfl⟩
      rw [List.map_eq_nil_iff.mp hlengths]
      rfl
  | cons n lengths ih =>
    cases lengths with
    | nil =>
      rw [IsHexGroups.singleton_iff, isHexGroups, Bool.and_eq_true, decide_eq_true_eq,
        List.all_eq_true]
    | cons m lengths =>
      rw [isHexGroups_cons_cons_iff, IsHexGroups.cons_cons_iff]
      simp only [ih]

theorem isRegion_iff {cs : List Char} : isRegion cs = true ↔ IsRegion cs := by
  constructor
  · intro h
    rw [isRegion.eq_def] at h
    split at h
    · next a b c d rest =>
      simp only [Bool.and_eq_true, decide_eq_true_eq] at h
      obtain ⟨⟨⟨⟨ha, hb⟩, hc⟩, hd⟩, hrest⟩ := h
      have hletters : ∀ x ∈ [a, b], 'a' ≤ x ∧ x ≤ 'z' := by
        simpa using ⟨ha, hb⟩
      have hdigits : ∀ x ∈ [c, d], Text.isDigit x = true := by
        simpa using ⟨hc, hd⟩
      split at hrest
      · exact .short hletters hdigits
      · next number =>
        rw [Bool.and_eq_true, Bool.not_eq_true', List.isEmpty_eq_false_iff, List.all_eq_true] at hrest
        exact .long hletters hdigits hrest.1 hrest.2
      · cases hrest
    · cases h
  · intro h
    cases h with
    | short hletters hdigits =>
      simp_all [isRegion]
    | long hletters hdigits hne hnumber =>
      simp_all [isRegion]

/-! ## Validation -/

/-- Whether the fields of a secret have their forms, the key too if it is required. -/
structure IsValid (requireKey : Bool) (secret : MachineSecret) : Prop where
  project : IsUuid secret.projectId
  region : IsRegion secret.region.toList
  network : secret.networkId = "" ∨ IsUuid secret.networkId
  key : requireKey = true → Text.isAllBlank secret.serviceAccountKey = false

/-- Whether no text that must have a form ends in a line feed. -/
structure IsChomped (secret : MachineSecret) : Prop where
  project : secret.projectId.toList.getLast? ≠ some '\n'
  region : secret.region.toList.getLast? ≠ some '\n'
  network : secret.networkId.toList.getLast? ≠ some '\n'

/-- A text that does not end in a line feed fits a form just if it has it. -/
theorem fits_eq {form : List Char → Bool} {s : String} (h : s.toList.getLast? ≠ some '\n') :
    fits form s = form s.toList := by
  rw [fits, decide_eq_false h, Bool.false_and, Bool.or_false]

theorem fits_isUuid_iff {s : String} (h : s.toList.getLast? ≠ some '\n') :
    fits isUuid s = true ↔ IsUuid s := by
  rw [fits_eq h]
  exact isHexGroups_iff

/-- A text that must be there is not missing if it fits a form that the empty text does not have. -/
theorem required_eq_none_iff {form : List Char → Bool} (hform : form [] = false) {s : String}
    {missing unfit : Problem} :
    (if s = "" then some missing else if fits form s then none else some unfit) = none ↔
      fits form s = true := by
  by_cases hempty : s = ""
  · have hunfit : fits form "" = false := by
      rw [fits, String.toList_empty, hform]
      rfl
    simp [hempty, hunfit]
  · simp [hempty]

variable {secret : MachineSecret} {requireKey : Bool}

theorem projectProblem_eq_none_iff :
    secret.projectProblem = none ↔ fits isUuid secret.projectId = true :=
  required_eq_none_iff rfl

theorem regionProblem_eq_none_iff :
    secret.regionProblem = none ↔ fits isRegion secret.region = true :=
  required_eq_none_iff rfl

theorem keyProblem_eq_none_iff :
    secret.keyProblem requireKey = none ↔
      (requireKey = true → Text.isAllBlank secret.serviceAccountKey = false) := by
  rw [keyProblem]
  cases requireKey <;> simp

theorem networkProblem_eq_none_iff :
    secret.networkProblem = none ↔
      (secret.networkId = "" ∨ fits isUuid secret.networkId = true) := by
  rw [networkProblem, ite_eq_left_iff]
  simp [or_iff_not_imp_left]

/-- Nothing is wrong with a secret just if each field fits. -/
theorem validate_eq_nil_iff :
    secret.validate requireKey = [] ↔ fits isUuid secret.projectId = true ∧
      fits isRegion secret.region = true ∧
      (requireKey = true → Text.isAllBlank secret.serviceAccountKey = false) ∧
      (secret.networkId = "" ∨ fits isUuid secret.networkId = true) := by
  rw [validate, List.filterMap_eq_nil_iff, ← projectProblem_eq_none_iff,
    ← regionProblem_eq_none_iff, ← keyProblem_eq_none_iff, ← networkProblem_eq_none_iff]
  simp only [List.forall_mem_cons, id, List.not_mem_nil, false_imp_iff, implies_true, and_true]

/-- Nothing is wrong with a secret without line feeds just if it is valid. -/
theorem validate_eq_nil_iff_isValid (h : secret.IsChomped) :
    secret.validate requireKey = [] ↔ secret.IsValid requireKey := by
  rw [validate_eq_nil_iff, fits_isUuid_iff h.project, fits_isUuid_iff h.network, fits_eq h.region,
    isRegion_iff]
  constructor
  · rintro ⟨hproject, hregion, hkey, hnetwork⟩
    exact ⟨hproject, hregion, hnetwork, hkey⟩
  · rintro ⟨hproject, hregion, hnetwork, hkey⟩
    exact ⟨hproject, hregion, hkey, hnetwork⟩

/-- Nothing is wrong with values just if all can be decoded and the secret is valid. -/
theorem problems_eq_nil_iff {values : Entries (Option String)} :
    problems values requireKey = [] ↔
      undecodable values = [] ∧ (ofValues values).validate requireKey = [] := by
  rw [problems, List.append_eq_nil_iff, List.map_eq_nil_iff]
  refine and_congr_right fun hlost => ?_
  -- no problem names a lost key if none is lost
  simp only [hlost, List.any_nil, Bool.not_false, List.filter_true]

/-! ## Data -/

variable {encoded : Bool} {s : String} {data : Entries SecretValue}

/-- Data is taken for the secret with its texts just if every value can be read and nothing is wrong with
the secret. -/
theorem ofData_eq_ok_iff :
    ofData data encoded requireKey = .ok secret ↔
      (∀ p ∈ data, ∃ s, p.2.Reads encoded s) ∧ ofValues (textsOf encoded data) = secret ∧
        secret.validate requireKey = [] := by
  have hspec (h : ∀ p ∈ data, p.2.IsTextual) :
      ofData data encoded requireKey = .ok secret ↔
        problems (textsOf encoded data) requireKey = [] ∧ ofValues (textsOf encoded data) = secret := by
    rw [ofData_of_decodeAll (decodeAll_eq_ok h)]
    split
    · next hnone => simp [hnone]
    · next hsome => simp [hsome]
  constructor
  · intro h
    have htextual : ∀ p ∈ data, p.2.IsTextual := by
      rw [ofData] at h
      split at h
      · cases h
      · next hvalues => exact isTextual_of_decodeAll hvalues
    obtain ⟨hproblems, rfl⟩ := (hspec htextual).mp h
    rw [problems_eq_nil_iff, undecodable_textsOf_eq_nil_iff] at hproblems
    exact ⟨hproblems.1, rfl, hproblems.2⟩
  · rintro ⟨hreadable, rfl, hvalidate⟩
    refine (hspec fun p hp => ?_).mpr ⟨?_, rfl⟩
    · obtain ⟨s, hs⟩ := hreadable p hp
      exact isTextual_of_reads hs
    · exact problems_eq_nil_iff.mpr ⟨undecodable_textsOf_eq_nil_iff.mpr hreadable, hvalidate⟩

/-- Whether a text is the one under a key.  It is empty if there is no such key. -/
def HasText (encoded : Bool) (data : Entries SecretValue) (key s : String) : Prop :=
  (data.get? key = none ∧ s = "") ∨ ∃ v, data.get? key = some v ∧ v.Reads encoded s

/-- Whether a secret is what some data holds: every value can be read, and the fields are the texts under
their keys, without the blanks around those that have a form. -/
structure Holds (encoded : Bool) (data : Entries SecretValue) (secret : MachineSecret) : Prop where
  readable : ∀ p ∈ data, ∃ s, p.2.Reads encoded s
  project : ∃ s, HasText encoded data "project-id" s ∧ secret.projectId = Text.trim s
  region : ∃ s, HasText encoded data "region" s ∧ secret.region = Text.trim s
  key : HasText encoded data "serviceaccount.json" secret.serviceAccountKey
  network : ∃ s, HasText encoded data "networkId" s ∧ secret.networkId = Text.trim s
  userData : HasText encoded data "userData" secret.userData

/-- The text of a field is the one under its key. -/
theorem hasText_iff (h : ∀ p ∈ data, ∃ s, p.2.Reads encoded s) {f : Field} :
    HasText encoded data f.key s ↔ fieldText (textsOf encoded data) f = s := by
  rw [HasText, fieldText, textsOf, Entries.get?_map]
  cases hvalue : data.get? f.key with
  | none => simp [eq_comm]
  | some v =>
    obtain ⟨t, ht⟩ := h _ (Entries.mem_of_get? hvalue)
    rw [Option.map_some, text?_eq_some_iff.mpr ht]
    simp [← text?_eq_some_iff, text?_eq_some_iff.mpr ht]

/-- What data holds is the secret with its texts. -/
theorem holds_iff {secret : MachineSecret} :
    Holds encoded data secret ↔
      (∀ p ∈ data, ∃ s, p.2.Reads encoded s) ∧ ofValues (textsOf encoded data) = secret := by
  constructor
  · rintro ⟨hreadable, ⟨project, hproject, hsecretProject⟩, ⟨region, hregion, hsecretRegion⟩, hkey,
      ⟨network, hnetwork, hsecretNetwork⟩, huserData⟩
    have hfield (f : Field) {s : String} (hs : HasText encoded data f.key s) :
        fieldText (textsOf encoded data) f = s := (hasText_iff hreadable).mp hs
    refine ⟨hreadable, ?_⟩
    rw [ofValues, hfield .projectId hproject, hfield .region hregion,
      hfield .serviceAccountKey hkey, hfield .networkId hnetwork, hfield .userData huserData,
      ← hsecretProject, ← hsecretRegion, ← hsecretNetwork]
  · rintro ⟨hreadable, rfl⟩
    have hfield (f : Field) : HasText encoded data f.key (fieldText (textsOf encoded data) f) :=
      (hasText_iff hreadable).mpr rfl
    exact ⟨hreadable, ⟨_, hfield .projectId, rfl⟩, ⟨_, hfield .region, rfl⟩,
      hfield .serviceAccountKey, ⟨_, hfield .networkId, rfl⟩, hfield .userData⟩

/-- The texts that must have a form have been trimmed. -/
theorem isChomped_ofValues (values : Entries (Option String)) : (ofValues values).IsChomped := by
  have htrim (s : String) : (Text.trim s).toList.getLast? ≠ some '\n' := by
    intro hlast
    have hblank := Text.isBlank_of_getLast?_trim hlast
    cases hblank
  exact ⟨htrim _, htrim _, htrim _⟩

/-- Data is taken just if it holds a valid secret, and for this secret.  None of the texts in it that have
a form ends in a line feed.  What is wrong with all other data is listed. -/
theorem ofData_spec (h : ∀ p ∈ data, p.2.IsTextual) (encoded requireKey : Bool) :
    (∀ secret, ofData data encoded requireKey = .ok secret ↔
      Holds encoded data secret ∧ secret.IsValid requireKey) ∧
    (∀ secret, ofData data encoded requireKey = .ok secret → secret.IsChomped) ∧
    ((∃ secret, ofData data encoded requireKey = .ok secret) ∨
      ∃ errors, errors ≠ [] ∧ ofData data encoded requireKey = .error (.secret errors)) := by
  rw [ofData_of_decodeAll (decodeAll_eq_ok h)]
  by_cases hproblems : problems (textsOf encoded data) requireKey = []
  · rw [if_pos hproblems]
    rw [problems_eq_nil_iff, undecodable_textsOf_eq_nil_iff,
      validate_eq_nil_iff_isValid (isChomped_ofValues _)] at hproblems
    obtain ⟨hreadable, hvalid⟩ := hproblems
    refine ⟨fun secret => ?_, ?_, .inl ⟨_, rfl⟩⟩
    · rw [holds_iff, Except.ok.injEq]
      constructor
      · rintro rfl
        exact ⟨⟨hreadable, rfl⟩, hvalid⟩
      · rintro ⟨⟨-, hsecret⟩, -⟩
        exact hsecret
    · rintro secret ⟨⟩
      exact isChomped_ofValues _
  · rw [if_neg hproblems]
    refine ⟨fun secret => ?_, nofun, .inr ⟨_, ?_, rfl⟩⟩
    · refine iff_of_false nofun ?_
      rintro ⟨hholds, hvalid⟩
      obtain ⟨hreadable, rfl⟩ := holds_iff.mp hholds
      refine hproblems (problems_eq_nil_iff.mpr ⟨?_, ?_⟩)
      · exact undecodable_textsOf_eq_nil_iff.mpr hreadable
      · exact (validate_eq_nil_iff_isValid (isChomped_ofValues _)).mpr hvalid
    · rwa [ne_eq, List.map_eq_nil_iff]

/-- Encoded data, with a line feed behind the project and blanks around a region whose number is in Arabic
digits.  The same data without the key is refused. -/
theorem ofData_spec_of_padded :
    let rest : Entries SecretValue := [
      ("project-id", .text "MDEyMzQ1NjctODlhYi1DREVGLTAxMjMtNDU2Nzg5YWJjZGVmCg=="),
      ("region", .text "IGV1MNmjLdmkCg=="), ("networkId", .absent), ("note", .bytes [97, 71, 107, 61])]
    let data := ("serviceaccount.json", SecretValue.text "e30=") :: rest
    let secret : MachineSecret :=
      { projectId := "01234567-89ab-CDEF-0123-456789abcdef"
        region := "eu0\u0663-\u0664"
        serviceAccountKey := "\x7b\x7d" }
    (∀ p ∈ data, p.2.IsTextual) ∧ Holds true data secret ∧ secret.IsValid true ∧
      secret.IsChomped ∧
      ∃ errors, errors ≠ [] ∧ ofData rest true true = .error (.secret errors) := by
  intro rest data secret
  let values : Entries (Option String) := [
    ("project-id", some "01234567-89ab-CDEF-0123-456789abcdef\n"),
    ("region", some " eu0\u0663-\u0664\n"), ("networkId", some ""), ("note", some "hi")]
  have htextual : ∀ p ∈ data, p.2.IsTextual := by
    simp [data, rest, SecretValue.IsTextual]
  have htextual' : ∀ p ∈ rest, p.2.IsTextual := fun p hp => htextual p (List.mem_cons_of_mem _ hp)
  have hvalues : textsOf true rest = values := by decide +kernel
  have hmissing : (ofValues values).validate true = [.absent .serviceAccountKey] := by decide +kernel
  have hrefused : ∀ secret, ofData rest true true ≠ .ok secret := by
    have hproblems : problems values true ≠ [] := by
      rw [ne_eq, problems_eq_nil_iff, hmissing]
      exact fun h => List.cons_ne_nil _ _ h.2
    rw [ofData_of_decodeAll (decodeAll_eq_ok htextual'), hvalues, if_neg hproblems]
    intro secret h
    cases h
  have hreadable : undecodable (textsOf true data) = [] := by decide +kernel
  have htaken : ofData data true true = .ok secret := ofData_eq_ok_iff.mpr
    ⟨undecodable_textsOf_eq_nil_iff.mp hreadable, by decide +kernel, by decide +kernel⟩
  obtain ⟨hspec, hchomped, -⟩ := ofData_spec htextual true true
  obtain ⟨hholds, hvalid⟩ := (hspec secret).mp htaken
  refine ⟨htextual, hholds, hvalid, hchomped secret htaken, ?_⟩
  exact (ofData_spec htextual' true true).2.2.resolve_left (not_exists.mpr hrefused)

end MachineSecret

end MachineCloud
