import MachineCloud.Proofs.Server.Spec
import MachineCloud.Proofs.Text.Base64
import MachineCloud.Proofs.Value.Equality

/-!
# Payloads that are equal

The payloads of two well-typed requests are equal objects exactly if the requests agree in their normal
forms (`rel_toWire_iff`).  So a payload loses nothing of a request but that an empty text or list, and a
size that is not positive, count as absent.

An object that leaves out absent members is compared member by member (`rel_present_iff`), and each
member by what it was made from.
-/

namespace MachineCloud

/-! ## Objects that leave out absent members -/

/-- The names of members. -/
def memberNames (ms : List (String × Option Value)) : List String := ms.map (·.1)

theorem eq_cons_of_memberNames {name : String} {names : List String}
    {ms : List (String × Option Value)} (h : memberNames ms = name :: names) :
    ∃ v rest, ms = (name, v) :: rest ∧ memberNames rest = names := by
  obtain ⟨⟨_, v⟩, rest, rfl, rfl, hrest⟩ := List.map_eq_cons_iff.mp h
  exact ⟨v, rest, rfl, hrest⟩

theorem keys_present_sublist (ms : List (String × Option Value)) :
    (Entries.keys (present ms)).Sublist (memberNames ms) := by
  induction ms with
  | nil => exact .slnil
  | cons m ms ih =>
    obtain ⟨name, _ | v⟩ := m
    · exact .cons name ih
    · exact .cons_cons name ih

theorem get?_present_of_notMem {name : String} {ms : List (String × Option Value)}
    (h : name ∉ memberNames ms) : Entries.get? name (present ms) = none :=
  Entries.get?_eq_none_iff.mpr fun hmem => h ((keys_present_sublist ms).subset hmem)

/-- A member is found under its name. -/
theorem get?_present_cons {name : String} {v : Option Value} {ms : List (String × Option Value)}
    (h : name ∉ memberNames ms) (key : String) :
    Entries.get? key (present ((name, v) :: ms)) =
      if name = key then v else Entries.get? key (present ms) := by
  cases v with
  | some v => rfl
  | none =>
    change Entries.get? key (present ms) = _
    split
    · next hkey => rw [← hkey, get?_present_of_notMem h]
    · rfl

/-- If no name comes twice, every member is found, be it present or absent. -/
theorem get?_present_of_mem {name : String} {v : Option Value} {ms : List (String × Option Value)}
    (hnodup : (memberNames ms).Nodup) (h : (name, v) ∈ ms) : Entries.get? name (present ms) = v := by
  induction ms with
  | nil => cases h
  | cons m ms ih =>
    obtain ⟨hnew, hrest⟩ := List.nodup_cons.mp hnodup
    rw [get?_present_cons hnew]
    rcases List.mem_cons.mp h with rfl | hmem
    · rw [if_pos rfl]
    · have hne : m.1 ≠ name := by
        rintro rfl
        exact hnew (List.mem_map.mpr ⟨_, hmem, rfl⟩)
      rw [if_neg hne, ih hrest hmem]

namespace Value.Equality

variable (e : Value.Equality)

/-- Objects with the same names for their members are equal if each member is, be it present or
absent. -/
theorem rel_present_iff {names : List String} {ms ns : List (String × Option Value)}
    (hms : memberNames ms = names) (hns : memberNames ns = names) (hnodup : names.Nodup) :
    e.rel (.map (present ms)) (.map (present ns)) ↔
      List.Forall₂ (fun m n => Option.Rel e.rel m.2 n.2) ms ns := by
  rw [e.map ((hms ▸ hnodup).sublist (keys_present_sublist ms))
    ((hns ▸ hnodup).sublist (keys_present_sublist ns))]
  induction names generalizing ms ns with
  | nil =>
    obtain rfl := List.map_eq_nil_iff.mp hms
    obtain rfl := List.map_eq_nil_iff.mp hns
    exact iff_of_true (fun _ => .none) .nil
  | cons name names ih =>
    obtain ⟨v, ms, rfl, hmsRest⟩ := eq_cons_of_memberNames hms
    obtain ⟨w, ns, rfl, hnsRest⟩ := eq_cons_of_memberNames hns
    obtain ⟨hname, hnames⟩ := List.nodup_cons.mp hnodup
    have hm : name ∉ memberNames ms := by rwa [hmsRest]
    have hn : name ∉ memberNames ns := by rwa [hnsRest]
    rw [List.forall₂_cons, ← ih hmsRest hnsRest hnames]
    simp only [get?_present_cons hm, get?_present_cons hn]
    constructor
    · intro h
      refine ⟨by simpa using h name, fun key => ?_⟩
      by_cases hkey : name = key
      · rw [← hkey, get?_present_of_notMem hm, get?_present_of_notMem hn]
        exact .none
      · simpa [hkey] using h key
    · rintro ⟨hmember, hrest⟩ key
      split
      · exact hmember
      · exact hrest key

/-! ## What members are made from -/

theorem optionRel_map_iff {α : Type} {f : α → Value} {r : α → α → Prop}
    (hf : ∀ a b, e.rel (f a) (f b) ↔ r a b) {a b : Option α} :
    Option.Rel e.rel (a.map f) (b.map f) ↔ Option.Rel r a b := by
  cases a <;> cases b <;> simp [hf]

/-- A form that tells apart what it is made from does so for what may be absent. -/
theorem optionRel_map_eq_iff {α : Type} {f : α → Value} (hf : ∀ a b, e.rel (f a) (f b) ↔ a = b)
    {a b : Option α} : Option.Rel e.rel (a.map f) (b.map f) ↔ a = b := by
  cases a <;> cases b <;> simp [hf]

theorem rel_ofTexts_iff (ss ts : List String) : e.rel (.ofTexts ss) (.ofTexts ts) ↔ ss = ts := by
  simp only [ofTexts, e.list, List.forall₂_map_left_iff, List.forall₂_map_right_iff, e.str,
    List.forall₂_eq_eq_eq]

theorem rel_encodeText_iff (s t : String) :
    e.rel (.str (Attribute.encodeText s)) (.str (Attribute.encodeText t)) ↔ s = t := by
  rw [e.str]
  exact ⟨Attribute.encodeText_inj, congrArg _⟩

end Value.Equality

/-- Whether two maps have the same texts under the same keys. -/
def TextMap.Same (m n : TextMap) : Prop := ∀ key, m.entries.get? key = n.entries.get? key

theorem TextMap.nodup_toValue (m : TextMap) :
    (Entries.keys (m.entries.map fun p => (p.1, Value.str p.2))).Nodup := by
  have hkeys : Entries.keys (m.entries.map fun p => (p.1, Value.str p.2)) = m.entries.keys := by
    simp [Entries.keys, Function.comp_def]
  rw [hkeys]
  exact m.nodup

namespace Value.Equality

variable (e : Value.Equality)

theorem rel_textMap_iff (m n : TextMap) : e.rel m.toValue n.toValue ↔ m.Same n := by
  rw [TextMap.toValue, TextMap.toValue, e.map m.nodup_toValue n.nodup_toValue]
  refine forall_congr' fun key => ?_
  rw [Entries.get?_map, Entries.get?_map, e.optionRel_map_eq_iff e.str]

theorem rel_connection_iff (c d : Connection) : e.rel c.toWire d.toWire ↔ c = d := by
  have hnames (c : Connection) : memberNames c.members = ["networkId", "nicIds"] := by
    cases c <;> rfl
  rw [Connection.toWire, Connection.toWire, e.rel_present_iff (hnames c) (hnames d) (by decide)]
  cases c <;> cases d <;> simp [Connection.members, e.str, e.rel_ofTexts_iff]

theorem rel_source_iff (s t : SourceSpec) : e.rel s.toWire t.toWire ↔ s = t := by
  have hnames (s : SourceSpec) : memberNames s.members = ["type", "id"] := rfl
  rw [SourceSpec.toWire, SourceSpec.toWire, e.rel_present_iff (hnames s) (hnames t) (by decide)]
  simp [SourceSpec.members, SourceSpec.ext_iff, e.str]

theorem rel_volume_iff (v w : NormalVolume) : e.rel v.toWire w.toWire ↔ v = w := by
  have hnames (v : NormalVolume) :
      memberNames v.members = ["size", "performanceClass", "deleteOnTermination", "source"] := rfl
  rw [NormalVolume.toWire, NormalVolume.toWire,
    e.rel_present_iff (hnames v) (hnames w) (by decide)]
  simp [NormalVolume.members, NormalVolume.ext_iff, e.optionRel_map_eq_iff e.int,
    e.optionRel_map_eq_iff e.str, e.optionRel_map_eq_iff e.bool,
    e.optionRel_map_eq_iff e.rel_source_iff]

theorem rel_agent_iff (a b : AgentSpec) : e.rel a.toWire b.toWire ↔ a = b := by
  have hnames (a : AgentSpec) : memberNames a.members = ["provisioned"] := rfl
  rw [AgentSpec.toWire, AgentSpec.toWire, e.rel_present_iff (hnames a) (hnames b) (by decide)]
  simp [AgentSpec.members, AgentSpec.ext_iff, e.optionRel_map_eq_iff e.bool]

end Value.Equality

/-! ## Payloads -/

namespace NormalSpec

/-- Whether two normal forms agree: in labels as maps of texts, in metadata as objects, and in all else
exactly. -/
@[mk_iff]
structure Agree (e : Value.Equality) (m n : NormalSpec) : Prop where
  name : m.name = n.name
  machineType : m.machineType = n.machineType
  imageId : m.imageId = n.imageId
  labels : Option.Rel TextMap.Same m.labels n.labels
  networking : m.networking = n.networking
  securityGroups : m.securityGroups = n.securityGroups
  userData : m.userData = n.userData
  bootVolume : m.bootVolume = n.bootVolume
  volumes : m.volumes = n.volumes
  keypairName : m.keypairName = n.keypairName
  availabilityZone : m.availabilityZone = n.availabilityZone
  affinityGroup : m.affinityGroup = n.affinityGroup
  serviceAccountMails : m.serviceAccountMails = n.serviceAccountMails
  agent : m.agent = n.agent
  metadata : Option.Rel (fun a b => e.rel (.map a) (.map b)) m.metadata n.metadata

theorem memberNames_members (n : NormalSpec) : memberNames n.members = [
    "name", "machineType", "imageId", "labels", "networking", "securityGroups", "userData",
    "bootVolume", "volumes", "keypairName", "availabilityZone", "affinityGroup",
    "serviceAccountMails", "agent", "metadata"] := rfl

/-- What the payload of a normal form has under the name of a member. -/
theorem get?_members {n : NormalSpec} {name : String} {v : Option Value} (h : (name, v) ∈ n.members) :
    Entries.get? name (present n.members) = v :=
  get?_present_of_mem (by rw [memberNames_members]; decide) h

/-- The payloads of normal forms are equal exactly if these agree. -/
theorem rel_members_iff (e : Value.Equality) (m n : NormalSpec) :
    e.rel (.map (present m.members)) (.map (present n.members)) ↔ Agree e m n := by
  rw [e.rel_present_iff (memberNames_members m) (memberNames_members n) (by decide)]
  simp only [members, List.forall₂_cons, List.forall₂_nil_left_iff, and_true, Option.rel_some_some,
    e.str, e.optionRel_map_eq_iff e.str, e.optionRel_map_iff e.rel_textMap_iff,
    e.optionRel_map_eq_iff e.rel_connection_iff, e.optionRel_map_eq_iff e.rel_ofTexts_iff,
    e.optionRel_map_eq_iff e.rel_encodeText_iff, e.optionRel_map_eq_iff e.rel_volume_iff,
    e.optionRel_map_eq_iff e.rel_agent_iff, e.optionRel_map_iff fun _ _ => Iff.rfl]
  exact (agree_iff e m n).symm

end NormalSpec

/-- Two well-typed requests have payloads, and these are equal objects exactly if the requests agree in
their normal forms. -/
theorem ServerSpec.rel_toWire_iff (e : Value.Equality) (s t : ServerSpec) :
    ∃ p q, s.toRequest.toWire = .ok p ∧ t.toRequest.toWire = .ok q ∧
      (e.rel (.map p) (.map q) ↔ NormalSpec.Agree e s.normal t.normal) :=
  ⟨_, _, s.toWire_toRequest, t.toWire_toRequest, NormalSpec.rel_members_iff e s.normal t.normal⟩

end MachineCloud
