import Mathlib.Data.List.Nodup
import MachineCloud.Proofs.Lists
import MachineCloud.Proofs.Secret.Validity

/-!
# What is reported about a secret

Data that is refused is reported with the keys whose values cannot be read, and then with the fields
that are invalid, each judged by the text that its own value is read as (`fullReport`).  No field comes
twice in that.

A field whose value cannot be read is not reported again as missing, since a problem that quotes such a
key is left out.  The problem of a region quotes the whole region, so that it is left out as well if the
region itself has the key between quotes (`HidesRegion`).  Nothing else is ever left out
(`ofData_reports`).
-/

namespace MachineCloud

namespace MachineSecret

variable {requireKey encoded : Bool} {f : Field} {p : Problem} {s key : String}
  {data : Entries SecretValue}

/-! ## Flaws of fields -/

instance IsUuid.instDecidable (s : String) : Decidable (IsUuid s) :=
  decidable_of_iff _ isHexGroups_iff

instance IsRegion.instDecidable (cs : List Char) : Decidable (IsRegion cs) :=
  decidable_of_iff _ isRegion_iff

/-- The fields that are judged, in the order of their problems. -/
def judged : List Field := [.projectId, .region, .serviceAccountKey, .networkId]

/-- What is wrong with a field that is read as this text. -/
def flaw? (requireKey : Bool) (f : Field) (s : String) : Option Problem :=
  let text := Text.trim s
  match f with
  | .projectId =>
    if text = "" then some (.absent f) else if IsUuid text then none else some (.notUuid f)
  | .region =>
    if text = "" then some (.absent f)
    else if IsRegion text.toList then none else some (.badRegion text)
  | .serviceAccountKey => if requireKey = true ∧ text = "" then some (.absent f) else none
  | .networkId => if text = "" ∨ IsUuid text then none else some (.notUuid f)
  | .userData => none

/-- The key that a problem is about. -/
def Problem.subject : Problem → String
  | .undecodable key => key
  | .absent f => f.key
  | .notUuid f => f.key
  | .badRegion _ => Field.region.key

/-- The problems that a field can have. -/
inductive Flawed (f : Field) (s : String) : Problem → Prop
  | absent (h : Text.trim s = "") : Flawed f s (.absent f)
  | notUuid (hfield : f ≠ .region) (hne : Text.trim s ≠ "") : Flawed f s (.notUuid f)
  | badRegion (hfield : f = .region) (hne : Text.trim s ≠ "")
      (hform : ¬ IsRegion (Text.trim s).toList) : Flawed f s (.badRegion (Text.trim s))

theorem flawed_of_flaw? (h : flaw? requireKey f s = some p) : Flawed f s p := by
  cases f with
  | projectId =>
    simp only [flaw?] at h
    split at h
    · next hempty =>
      cases h
      exact .absent hempty
    · next hne =>
      split at h <;> cases h
      exact .notUuid (by decide) hne
  | region =>
    simp only [flaw?] at h
    split at h
    · next hempty =>
      cases h
      exact .absent hempty
    · next hne =>
      split at h
      · cases h
      · next hform =>
        cases h
        exact .badRegion rfl hne hform
  | serviceAccountKey =>
    simp only [flaw?] at h
    split at h
    · next hempty =>
      cases h
      exact .absent hempty.2
    · cases h
  | networkId =>
    simp only [flaw?] at h
    split at h
    · cases h
    · next hne =>
      cases h
      exact .notUuid (by decide) (not_or.mp hne).1
  | userData => cases h

theorem Flawed.subject_eq (h : Flawed f s p) : p.subject = f.key := by
  cases h with
  | absent _ => rfl
  | notUuid _ _ => rfl
  | badRegion hfield _ _ =>
    rw [hfield]
    rfl

/-- The fields of a secret are judged by the texts that it is put together from. -/
theorem validate_ofValues (values : Entries (Option String)) (requireKey : Bool) :
    (ofValues values).validate requireKey =
      judged.filterMap fun f => flaw? requireKey f (fieldText values f) := by
  have hchomped := isChomped_ofValues values
  have hproject : (ofValues values).projectProblem =
      flaw? requireKey .projectId (fieldText values .projectId) := by
    simp only [projectProblem, fits_isUuid_iff hchomped.project]
    rfl
  have hregion : (ofValues values).regionProblem =
      flaw? requireKey .region (fieldText values .region) := by
    simp only [regionProblem, fits_eq hchomped.region, isRegion_iff]
    rfl
  have hkey : (ofValues values).keyProblem requireKey =
      flaw? requireKey .serviceAccountKey (fieldText values .serviceAccountKey) := by
    simp only [keyProblem, flaw?, Bool.and_eq_true, ← Text.trim_eq_empty_iff]
    rfl
  have hnetwork : (ofValues values).networkProblem =
      flaw? requireKey .networkId (fieldText values .networkId) := by
    simp only [networkProblem, Bool.or_eq_true, decide_eq_true_eq,
      fits_isUuid_iff hchomped.network]
    rfl
  rw [validate, hproject, hregion, hkey, hnetwork]
  change (judged.map fun f => flaw? requireKey f (fieldText values f)).filterMap id = _
  rw [List.filterMap_map, Function.id_comp]

/-! ## The whole report -/

/-- The text that a field is read as: none if its value cannot be read, and empty without a value. -/
def readText? (encoded : Bool) (data : Entries SecretValue) (f : Field) : Option String :=
  (data.get? f.key).elim (some "") (text? encoded)

theorem readText?_eq_some_iff : readText? encoded data f = some s ↔ HasText encoded data f.key s := by
  rw [readText?, HasText]
  cases data.get? f.key with
  | none => simp [eq_comm]
  | some v => simp [text?_eq_some_iff]

/-- The keys whose values cannot be read, in the order of the data. -/
def lostKeys (encoded : Bool) (data : Entries SecretValue) : List String :=
  (data.filter fun p => (text? encoded p.2).isNone).map (·.1)

/-- A key is lost just if its value is not read as any text. -/
theorem mem_lostKeys_iff :
    key ∈ lostKeys encoded data ↔ ∃ v, (key, v) ∈ data ∧ ∀ s, ¬ v.Reads encoded s := by
  have hnone (v : SecretValue) : (text? encoded v).isNone = true ↔ ∀ s, ¬ v.Reads encoded s := by
    rw [Option.isNone_iff_eq_none, Option.eq_none_iff_forall_ne_some]
    exact forall_congr' fun s => not_congr text?_eq_some_iff
  simp [lostKeys, hnone]

/-- Everything that is wrong with data: the keys that are lost, and then the flaws of the fields, each
judged by its own value if that can be read. -/
def fullReport (encoded requireKey : Bool) (data : Entries SecretValue) : List Problem :=
  (lostKeys encoded data).map .undecodable ++
    judged.filterMap fun f => (readText? encoded data f).bind (flaw? requireKey f)

/-- A field is lost just if it cannot be read. -/
theorem readText?_eq_none_iff (hkeys : data.keys.Nodup) :
    readText? encoded data f = none ↔ f.key ∈ lostKeys encoded data := by
  rw [readText?, mem_lostKeys_iff]
  constructor
  · intro hread
    cases hvalue : data.get? f.key with
    | none =>
      rw [hvalue] at hread
      cases hread
    | some v =>
      rw [hvalue] at hread
      refine ⟨v, Entries.mem_of_get? hvalue, fun s hs => ?_⟩
      cases hread.symm.trans (text?_eq_some_iff.mpr hs)
  · rintro ⟨v, hmem, hunread⟩
    rw [Entries.get?_of_mem hkeys hmem, Option.elim_some, Option.eq_none_iff_forall_ne_some]
    intro s hs
    exact hunread s (text?_eq_some_iff.mp hs)

/-- No two fields have the same key. -/
theorem Field.key_injective : Function.Injective Field.key := by
  intro f f' h
  cases f <;> cases f' <;> first | rfl | exact absurd h (by decide)

theorem Field.quote_notMem_key (f : Field) : '\'' ∉ f.key.toList := by
  cases f <;> decide

/-- A field that is reported with a flaw has been read. -/
theorem mem_flaws_iff :
    p ∈ judged.filterMap (fun f => (readText? encoded data f).bind (flaw? requireKey f)) ↔
      ∃ f ∈ judged, ∃ s, readText? encoded data f = some s ∧ flaw? requireKey f s = some p := by
  simp only [List.mem_filterMap, Option.bind_eq_some_iff]

/-- No field is reported twice. -/
theorem nodup_subject_fullReport (hkeys : data.keys.Nodup) :
    ((fullReport encoded requireKey data).map Problem.subject).Nodup := by
  have hlost : ((lostKeys encoded data).map Problem.undecodable).map Problem.subject =
      lostKeys encoded data := by
    simp [Function.comp_def, Problem.subject]
  rw [fullReport, List.map_append, hlost, List.nodup_append]
  refine ⟨?_, ?_, ?_⟩
  · exact (List.filter_sublist.map _).nodup hkeys
  · rw [List.map_filterMap]
    refine List.Nodup.filterMap ?_ (by decide)
    intro f f' k hf hf'
    obtain ⟨p, hp, rfl⟩ := Option.map_eq_some_iff.mp hf
    obtain ⟨p', hp', hsame⟩ := Option.map_eq_some_iff.mp hf'
    obtain ⟨s, -, hflaw⟩ := Option.bind_eq_some_iff.mp hp
    obtain ⟨s', -, hflaw'⟩ := Option.bind_eq_some_iff.mp hp'
    apply Field.key_injective
    rw [← (flawed_of_flaw? hflaw).subject_eq, ← (flawed_of_flaw? hflaw').subject_eq, hsame]
  · intro key hkey _ hreported
    obtain ⟨p, hp, rfl⟩ := List.mem_map.mp hreported
    obtain ⟨f, -, s, hread, hflaw⟩ := mem_flaws_iff.mp hp
    rintro rfl
    rw [(flawed_of_flaw? hflaw).subject_eq, ← readText?_eq_none_iff hkeys, hread] at hkey
    cases hkey

/-! ## Problems that name a key -/

/-- Whether a text has a key between quotes. -/
def Quotes (text key : String) : Prop := '\'' :: (key.toList ++ ['\'']) <:+: text.toList

theorem names_iff {text : String} : names text key = true ↔ Quotes text key := by
  rw [names, Quotes]
  generalize '\'' :: (key.toList ++ ['\'']) = quoted
  induction text.toList with
  | nil => simp [Value.occursIn]
  | cons c rest ih =>
    rw [Value.occursIn, Bool.or_eq_true, ih, List.isPrefixOf_iff_prefix, List.infix_cons_iff]

/-- A text with two quotes has nothing but what is between them between quotes. -/
theorem eq_of_quotes {text middle : String} {before after : List Char}
    (htext : text.toList = before ++ '\'' :: (middle.toList ++ '\'' :: after))
    (hbefore : '\'' ∉ before) (hmiddle : '\'' ∉ middle.toList) (hafter : '\'' ∉ after) :
    Quotes text key ↔ key = middle := by
  constructor
  · rintro ⟨x, y, h⟩
    rw [htext] at h
    -- both quotes of the text are those around the key
    have hcount := congrArg (List.count '\'') h
    simp only [List.count_append, List.count_cons_self, List.count_nil,
      List.count_eq_zero.mpr hbefore, List.count_eq_zero.mpr hmiddle,
      List.count_eq_zero.mpr hafter] at hcount
    have hx : '\'' ∉ x := List.count_eq_zero.mp (by omega)
    have hkey : '\'' ∉ key.toList := List.count_eq_zero.mp (by omega)
    simp only [List.append_assoc, List.cons_append, List.nil_append] at h
    obtain ⟨-, h⟩ := eq_of_append_cons_eq hx hbefore h
    obtain ⟨h, -⟩ := eq_of_append_cons_eq hkey hmiddle h
    exact String.toList_inj.mp h
  · rintro rfl
    refine ⟨before, after, ?_⟩
    rw [htext]
    simp

theorem quotes_absent_iff : Quotes (Problem.absent f).message key ↔ key = f.key := by
  have htext : (Problem.absent f).message.toList = "secret must contain a non-empty ".toList ++
      '\'' :: (f.key.toList ++ '\'' :: " field".toList) := by
    change (("secret must contain a non-empty '" ++ f.key) ++ "' field").toList = _
    rw [String.toList_append, String.toList_append]
    simp
  exact eq_of_quotes htext (by decide) f.quote_notMem_key (by decide)

theorem quotes_notUuid_iff : Quotes (Problem.notUuid f).message key ↔ key = f.key := by
  have htext : (Problem.notUuid f).message.toList = "secret ".toList ++
      '\'' :: (f.key.toList ++ '\'' :: " must be a valid UUID".toList) := by
    change (("secret '" ++ f.key) ++ "' must be a valid UUID").toList = _
    rw [String.toList_append, String.toList_append]
    simp
  exact eq_of_quotes htext (by decide) f.quote_notMem_key (by decide)

/-- Whether the region is invalid and its problem quotes a lost key. -/
def HidesRegion (encoded : Bool) (data : Entries SecretValue) : Prop :=
  ∃ s, HasText encoded data "region" s ∧ Text.trim s ≠ "" ∧ ¬ IsRegion (Text.trim s).toList ∧
    ∃ key ∈ lostKeys encoded data,
      Quotes ("secret 'region' has invalid format: " ++ Text.trim s) key

theorem any_names_iff {keys : List String} {text : String} :
    keys.any (names text) = true ↔ ∃ key ∈ keys, Quotes text key := by
  simp only [List.any_eq_true, names_iff]

/-- The problem of a field that has been read is never taken for that of a lost key, unless it is the
problem of a region that quotes one. -/
theorem names_lost_iff (hkeys : data.keys.Nodup) (hread : readText? encoded data f = some s)
    (hflaw : Flawed f s p) :
    (lostKeys encoded data).any (names p.message) = true ↔ f = .region ∧ HidesRegion encoded data := by
  have hfound : f.key ∉ lostKeys encoded data := by
    rw [← readText?_eq_none_iff hkeys, hread]
    exact Option.some_ne_none s
  have hself : ¬ ∃ key ∈ lostKeys encoded data, key = f.key := by
    rintro ⟨_, hkey, rfl⟩
    exact hfound hkey
  rw [any_names_iff]
  cases hflaw with
  | absent hempty =>
    simp only [quotes_absent_iff, hself, false_iff]
    rintro ⟨rfl, t, htext, hne, -⟩
    cases hread.symm.trans (readText?_eq_some_iff (f := .region) |>.mpr htext)
    exact hne hempty
  | notUuid hfield _ =>
    simp only [quotes_notUuid_iff, hself, false_iff]
    exact fun h => hfield h.1
  | badRegion hfield hne hform =>
    obtain rfl := hfield
    constructor
    · intro hquotes
      exact ⟨rfl, s, readText?_eq_some_iff.mp hread, hne, hform, hquotes⟩
    · rintro ⟨-, t, htext, -, -, hquotes⟩
      cases hread.symm.trans (readText?_eq_some_iff (f := .region) |>.mpr htext)
      exact hquotes

/-! ## What is left of the report -/

theorem undecodable_textsOf (encoded : Bool) (data : Entries SecretValue) :
    undecodable (textsOf encoded data) = lostKeys encoded data := by
  rw [undecodable, textsOf, lostKeys, List.filter_map, List.map_map]
  rfl

theorem fieldText_textsOf (encoded : Bool) (data : Entries SecretValue) (f : Field) :
    fieldText (textsOf encoded data) f = (readText? encoded data f).getD "" := by
  rw [fieldText, textsOf, Entries.get?_map, readText?]
  cases data.get? f.key <;> rfl

/-- The flaw of a field, unless its problem names a lost key. -/
def listed? (encoded requireKey : Bool) (data : Entries SecretValue) (f : Field) : Option Problem :=
  (flaw? requireKey f (fieldText (textsOf encoded data) f)).filter fun p =>
    !(lostKeys encoded data).any (names p.message)

theorem problems_eq (encoded requireKey : Bool) (data : Entries SecretValue) :
    problems (textsOf encoded data) requireKey =
      (lostKeys encoded data).map .undecodable ++ judged.filterMap (listed? encoded requireKey data) := by
  rw [problems, undecodable_textsOf, validate_ofValues, List.filter_filterMap]
  rfl

/-- A lost field is not listed again as missing. -/
theorem listed?_of_lost (hkeys : data.keys.Nodup) (h : readText? encoded data f = none) :
    listed? encoded requireKey data f = none := by
  rw [listed?, fieldText_textsOf, h, Option.filter_eq_none_iff]
  intro p hp
  have hlost := (readText?_eq_none_iff hkeys).mp h
  have hnamed : (lostKeys encoded data).any (names p.message) = true := by
    rw [any_names_iff]
    cases flawed_of_flaw? hp with
    | absent _ => exact ⟨f.key, hlost, quotes_absent_iff.mpr rfl⟩
    | notUuid _ hne => exact absurd rfl hne
    | badRegion _ hne _ => exact absurd rfl hne
  simp [hnamed]

/-- Any other field is listed with its flaw, unless it is a region that hides itself. -/
theorem listed?_of_read (hkeys : data.keys.Nodup) (hread : readText? encoded data f = some s)
    (hkept : ¬ (f = .region ∧ HidesRegion encoded data)) :
    listed? encoded requireKey data f = flaw? requireKey f s := by
  rw [listed?, fieldText_textsOf, hread, Option.getD_some]
  cases hflaw : flaw? requireKey f s with
  | none => rfl
  | some p =>
    have hnamed := mt (names_lost_iff hkeys hread (flawed_of_flaw? hflaw)).mp hkept
    rw [Option.filter_some, Bool.eq_false_iff.mpr hnamed]
    rfl

/-- A region that hides itself has been read. -/
theorem HidesRegion.exists_flaw (h : HidesRegion encoded data) (requireKey : Bool) :
    ∃ s p, readText? encoded data .region = some s ∧ flaw? requireKey .region s = some p := by
  obtain ⟨s, htext, hne, hform, -⟩ := h
  refine ⟨s, .badRegion (Text.trim s), readText?_eq_some_iff.mpr htext, ?_⟩
  simp only [flaw?, if_neg hne, if_neg hform]

theorem listed?_of_hidden (hkeys : data.keys.Nodup) (h : HidesRegion encoded data) :
    listed? encoded requireKey data .region = none := by
  obtain ⟨s, p, hread, hflaw⟩ := h.exists_flaw requireKey
  have hnamed := (names_lost_iff hkeys hread (flawed_of_flaw? hflaw)).mpr ⟨rfl, h⟩
  rw [listed?, fieldText_textsOf, hread, Option.getD_some, hflaw, Option.filter_some, hnamed]
  rfl

/-- Every field is listed with the flaw of its own text, unless it is a region that hides itself. -/
theorem listed?_eq (hkeys : data.keys.Nodup) (hkept : ¬ (f = .region ∧ HidesRegion encoded data)) :
    listed? encoded requireKey data f = (readText? encoded data f).bind (flaw? requireKey f) := by
  cases hread : readText? encoded data f with
  | none => exact listed?_of_lost hkeys hread
  | some s => exact listed?_of_read hkeys hread hkept

/-- If no region hides itself, the whole report is listed. -/
theorem problems_of_shown (hkeys : data.keys.Nodup) (h : ¬ HidesRegion encoded data) :
    problems (textsOf encoded data) requireKey = fullReport encoded requireKey data := by
  rw [problems_eq, fullReport]
  refine congrArg (_ ++ ·) (List.filterMap_congr ?_)
  intro f _
  exact listed?_eq hkeys fun hhidden => h hhidden.2

/-- Otherwise the region is missing in the list, and nothing else. -/
theorem problems_of_hidden (hkeys : data.keys.Nodup) (h : HidesRegion encoded data) :
    problems (textsOf encoded data) requireKey =
      (fullReport encoded requireKey data).filter (·.subject ≠ "region") := by
  obtain ⟨s, p, hread, hflaw⟩ := h.exists_flaw requireKey
  have hlost : ((lostKeys encoded data).map Problem.undecodable).filter (·.subject ≠ "region") =
      (lostKeys encoded data).map .undecodable := by
    rw [List.filter_eq_self, List.forall_mem_map]
    intro key hkey
    rw [decide_eq_true_eq]
    rintro rfl
    cases hread.symm.trans ((readText?_eq_none_iff (f := .region) hkeys).mpr hkey)
  rw [problems_eq, fullReport, List.filter_append, hlost, List.filter_filterMap]
  refine congrArg (_ ++ ·) (List.filterMap_congr ?_)
  intro f _
  by_cases hregion : f = .region
  · rw [hregion, listed?_of_hidden hkeys h, hread, Option.bind_some, hflaw, Option.filter_some,
      (flawed_of_flaw? hflaw).subject_eq]
    rfl
  · rw [listed?_eq hkeys fun hhidden => hregion hhidden.1]
    cases hfound : (readText? encoded data f).bind (flaw? requireKey f) with
    | none => rfl
    | some p =>
      obtain ⟨s, -, hflaw⟩ := Option.bind_eq_some_iff.mp hfound
      have hother : f.key ≠ "region" := fun hkey => hregion (Field.key_injective hkey)
      rw [Option.filter_some, (flawed_of_flaw? hflaw).subject_eq, decide_eq_true hother]
      rfl

/-- Nothing is in the whole report just if nothing is listed: what hides a region is a lost key. -/
theorem problems_eq_nil_iff_fullReport (hkeys : data.keys.Nodup) :
    problems (textsOf encoded data) requireKey = [] ↔ fullReport encoded requireKey data = [] := by
  by_cases h : HidesRegion encoded data
  · obtain ⟨-, -, -, -, key, hkey, -⟩ := h
    have hlost : (lostKeys encoded data).map Problem.undecodable ≠ [] :=
      List.map_eq_nil_iff.not.mpr (List.ne_nil_of_mem hkey)
    rw [problems_eq, fullReport]
    simp [hlost]
  · rw [problems_of_shown hkeys h]

/-- No field comes twice in the whole report, and data is taken just if there is nothing in it.  All other
data is refused, and the whole report is given unless an invalid region quotes a lost key; then the
region is missing in it. -/
theorem ofData_reports (hkeys : data.keys.Nodup) (htextual : ∀ p ∈ data, p.2.IsTextual)
    (encoded requireKey : Bool) :
    let full := fullReport encoded requireKey data
    (full.map Problem.subject).Nodup ∧
    (full = [] ↔ ∃ secret, ofData data encoded requireKey = .ok secret) ∧
    ∀ fault, ofData data encoded requireKey = .error fault → ∃ errors, fault = .secret errors ∧
      (errors = full.map Problem.message ↔ ¬ HidesRegion encoded data) ∧
      (HidesRegion encoded data →
        errors = (full.filter (·.subject ≠ "region")).map Problem.message) := by
  intro full
  have hdecoded : decodeAll encoded data = .ok (textsOf encoded data) := decodeAll_eq_ok htextual
  have hdata := ofData_of_decodeAll hdecoded requireKey
  refine ⟨nodup_subject_fullReport hkeys, ?_, ?_⟩
  · rw [hdata, ← problems_eq_nil_iff_fullReport hkeys]
    by_cases hproblems : problems (textsOf encoded data) requireKey = []
    · rw [if_pos hproblems]
      exact iff_of_true hproblems ⟨_, rfl⟩
    · rw [if_neg hproblems]
      exact iff_of_false hproblems nofun
  · intro fault hfault
    rw [hdata] at hfault
    split at hfault
    · cases hfault
    · cases hfault
      refine ⟨_, rfl, ?_, ?_⟩
      · constructor
        · intro hwhole hhidden
          rw [problems_of_hidden hkeys hhidden] at hwhole
          -- the region has been dropped, so that the list has become shorter
          obtain ⟨s, p, hread, hflaw⟩ := hhidden.exists_flaw requireKey
          have hmem : p ∈ full :=
            List.mem_append_right _ (mem_flaws_iff.mpr ⟨.region, by decide, s, hread, hflaw⟩)
          have hlength := congrArg List.length hwhole
          rw [List.length_map, List.length_map, List.length_filter_eq_length_iff] at hlength
          have hkept := hlength p hmem
          rw [(flawed_of_flaw? hflaw).subject_eq] at hkept
          exact absurd hkept (by decide)
        · intro hshown
          rw [problems_of_shown hkeys hshown]
      · intro hhidden
        rw [problems_of_hidden hkeys hhidden]

/-- A region with the key `a` between quotes, and under this key a value that cannot be read. -/
theorem ofData_reports_of_quotes :
    let data : Entries SecretValue :=
      [("region", .text "eCdhJw=="), ("a", .text "a"), ("networkId", .text "bmV0")]
    let errors := ["secret 'a' is not valid base64-encoded UTF-8",
      "secret must contain a non-empty 'project-id' field",
      "secret must contain a non-empty 'serviceaccount.json' field",
      "secret 'networkId' must be a valid UUID"]
    data.keys.Nodup ∧ (∀ p ∈ data, p.2.IsTextual) ∧
      ofData data true true = .error (.secret errors) ∧
      errors ≠ (fullReport true true data).map Problem.message ∧
      errors = ((fullReport true true data).filter (·.subject ≠ "region")).map Problem.message := by
  intro data errors
  have hkeys : data.keys.Nodup := by decide
  have htextual : ∀ p ∈ data, p.2.IsTextual := by
    simp [data, SecretValue.IsTextual]
  have hhidden : HidesRegion true data := by
    have hread : text? true (.text "eCdhJw==") = some "x'a'" := by decide +kernel
    have hlost : "a" ∈ lostKeys true data := by
      have hunread : text? true (.text "a") = none := by decide +kernel
      simp [data, lostKeys, hunread]
    have hnames : names "secret 'region' has invalid format: x'a'" "a" = true := by decide
    have hform : isRegion "x'a'".toList = false := by decide
    refine ⟨"x'a'", .inr ⟨_, rfl, text?_eq_some_iff.mp hread⟩, by decide, ?_, "a", hlost, ?_⟩
    · exact isRegion_iff.not.mp (Bool.eq_false_iff.mp hform)
    · exact names_iff.mp hnames
  have hfull : fullReport true true data = [.undecodable "a", .absent .projectId,
      .badRegion "x'a'", .absent .serviceAccountKey, .notUuid .networkId] := by decide +kernel
  have hproblems : problems (textsOf true data) true = [.undecodable "a", .absent .projectId,
      .absent .serviceAccountKey, .notUuid .networkId] := by
    rw [problems_of_hidden hkeys hhidden, hfull]
    decide
  have hrefused : ofData data true true = .error (.secret errors) := by
    rw [ofData_of_decodeAll (decodeAll_eq_ok htextual), hproblems, if_neg (List.cons_ne_nil _ _)]
    exact congrArg (Except.error ∘ Fault.secret) (by decide +kernel)
  obtain ⟨-, -, hreport⟩ := ofData_reports hkeys htextual true true
  obtain ⟨errors', hsecret, hwhole, hdropped⟩ := hreport _ hrefused
  cases hsecret
  exact ⟨hkeys, htextual, hrefused, fun h => hwhole.mp h hhidden, hdropped hhidden⟩

end MachineSecret

end MachineCloud
