import MachineCloud.Account.Key
import MachineCloud.Proofs.Json.Printing

/-!
# Objects that are keys

`IsKey` tells which objects describe which key.  A text of an object is accepted just if the object does
describe a key, and this is the key that comes out of it; members that a key does not need make no
difference.  Only lists and maps that stand too deep in each other keep a text from being read, in such a
member too (`parse_spec`).
-/

namespace MachineCloud

namespace Account

/-! ## What an object has to hold -/

/-- That a text stands there, which is not empty. -/
def Holds (v? : Option Value) (s : String) : Prop := v? = some (.str s) ∧ s ≠ ""

/-- That a text stands there, or nothing, or null for nothing. -/
inductive MayHold : Option Value → Option String → Prop
  | missing : MayHold none none
  | null : MayHold (some .null) none
  | text (s : String) : MayHold (some (.str s)) (some s)

/-- The credentials that an object describes. -/
structure IsCredentials (c : Entries Value) (credentials : Credentials) : Prop where
  kid : Holds (c.get? "kid") credentials.kid
  iss : Holds (c.get? "iss") credentials.iss
  sub : Holds (c.get? "sub") credentials.sub
  aud : Holds (c.get? "aud") credentials.aud
  privateKey : Holds (c.get? "privateKey") credentials.privateKey

/-- The key that an object describes.  The second name of a member counts if the first one is missing. -/
structure IsKey (m : Entries Value) (key : Key) : Prop where
  id : Holds (m.get? "id") key.id
  publicKey : Holds ((m.get? "publicKey").or (m.get? "public_key")) key.publicKey
  keyType : MayHold ((m.get? "keyType").or (m.get? "key_type")) key.keyType
  keyAlgorithm : MayHold ((m.get? "keyAlgorithm").or (m.get? "key_algorithm")) key.keyAlgorithm
  validUntil : MayHold ((m.get? "validUntil").or (m.get? "valid_until")) key.validUntil
  credentials : ∃ c, m.get? "credentials" = some (.map c) ∧ IsCredentials c key.credentials

/-! ## Checks and what they mean -/

namespace Checked

variable {α β : Type}

/-- Two parts are fine just if each of them is. -/
theorem also_eq_ok_iff {f : Checked (α → β)} {x : Checked α} {b : β} :
    f.also x = .ok b ↔ ∃ g a, f = .ok g ∧ x = .ok a ∧ g a = b := by
  rcases f with vs | g <;> rcases x with ws | a <;> simp [also]

theorem map_eq_ok_iff {f : α → β} {x : Checked α} {b : β} :
    x.map f = .ok b ↔ ∃ a, x = .ok a ∧ f a = b := by
  rcases x with vs | a <;> simp [Except.map]

end Checked

namespace Key

variable {m m' : Entries Value} {name other : String} {others path : List String} {s : String}

theorem value_firstOf_one (m : Entries Value) (name : String) :
    (firstOf m [name]).map Prod.snd = m.get? name := by
  cases h : m.get? name <;> simp [firstOf, h]

theorem value_firstOf_two (m : Entries Value) (name other : String) :
    (firstOf m [name, other]).map Prod.snd = (m.get? name).or (m.get? other) := by
  cases h : m.get? name <;> cases h' : m.get? other <;> simp [firstOf, h, h']

/-- A required text is read just if it is there. -/
theorem required_eq_ok_iff :
    required path m name others = .ok s ↔ Holds ((firstOf m (name :: others)).map Prod.snd) s := by
  rw [required, Holds]
  rcases firstOf m (name :: others) with _ | ⟨spelling, v⟩
  · simp
  cases v with
  | str t =>
    by_cases ht : t = ""
    · simp only [ht, if_true, reduceCtorEq, Option.map_some, Option.some.injEq, Value.str.injEq,
        false_iff, not_and, not_not]
      exact Eq.symm
    · simp only [if_neg ht, Except.ok.injEq, Option.map_some, Option.some.injEq, Value.str.injEq]
      exact ⟨fun h => ⟨h, h ▸ ht⟩, And.left⟩
  | _ => simp

/-- An optional text is read just if it may stand there. -/
theorem optional_eq_ok_iff {t : Option String} :
    optional m name others = .ok t ↔ MayHold ((firstOf m (name :: others)).map Prod.snd) t := by
  rw [optional.eq_def]
  rcases firstOf m (name :: others) with _ | ⟨spelling, v⟩
  · constructor
    · rintro ⟨⟩
      exact .missing
    · rintro ⟨⟩
      rfl
  · cases v with
    | null =>
      constructor
      · rintro ⟨⟩
        exact .null
      · rintro ⟨⟩
        rfl
    | str u =>
      constructor
      · rintro ⟨⟩
        exact .text u
      · rintro ⟨⟩
        rfl
    | _ => constructor <;> rintro ⟨⟩

theorem credentialsOf_eq_ok_iff {credentials : Credentials} :
    credentialsOf m = .ok credentials ↔
      ∃ c, m.get? "credentials" = some (.map c) ∧ IsCredentials c credentials := by
  rw [credentialsOf]
  rcases hv : m.get? "credentials" with _ | v
  · simp
  cases v with
  | map c =>
    simp only [Checked.also_eq_ok_iff, Checked.map_eq_ok_iff, required_eq_ok_iff, value_firstOf_one]
    constructor
    · rintro ⟨_, privateKey, ⟨_, aud, ⟨_, sub, ⟨_, iss, ⟨kid, hkid, rfl⟩, hiss, rfl⟩, hsub, rfl⟩, haud, rfl⟩,
        hprivateKey, rfl⟩
      exact ⟨c, rfl, hkid, hiss, hsub, haud, hprivateKey⟩
    · rintro ⟨_, ⟨⟩, hkid, hiss, hsub, haud, hprivateKey⟩
      exact ⟨_, _, ⟨_, _, ⟨_, _, ⟨_, _, ⟨_, hkid, rfl⟩, hiss, rfl⟩, hsub, rfl⟩, haud, rfl⟩, hprivateKey, rfl⟩
  | _ => simp

/-- An object is taken for the key that it describes. -/
theorem ofEntries_eq_ok_iff {key : Key} : ofEntries m = .ok key ↔ IsKey m key := by
  rw [ofEntries]
  simp only [Checked.also_eq_ok_iff, Checked.map_eq_ok_iff, required_eq_ok_iff, optional_eq_ok_iff,
    credentialsOf_eq_ok_iff, value_firstOf_one, value_firstOf_two]
  constructor
  · rintro ⟨_, credentials, ⟨_, validUntil, ⟨_, keyAlgorithm, ⟨_, keyType, ⟨_, publicKey, ⟨id, hid, rfl⟩,
      hpublicKey, rfl⟩, hkeyType, rfl⟩, hkeyAlgorithm, rfl⟩, hvalidUntil, rfl⟩, hcredentials, rfl⟩
    exact ⟨hid, hpublicKey, hkeyType, hkeyAlgorithm, hvalidUntil, hcredentials⟩
  · rintro ⟨hid, hpublicKey, hkeyType, hkeyAlgorithm, hvalidUntil, hcredentials⟩
    exact ⟨_, _, ⟨_, _, ⟨_, _, ⟨_, _, ⟨_, _, ⟨_, hid, rfl⟩, hpublicKey, rfl⟩, hkeyType, rfl⟩, hkeyAlgorithm,
      rfl⟩, hvalidUntil, rfl⟩, hcredentials, rfl⟩

/-! ## Members that make no difference -/

/-- Where a violation is and what it is, whatever is shown of it. -/
def place (v : Schema.Violation) : List String × Schema.Flaw := (v.path, v.flaw)

/-- Whether two parts come to the same: the same value, or violations of the same kind in the same
places. -/
inductive Alike {α : Type} : Checked α → Checked α → Prop
  | ok (a : α) : Alike (.ok a) (.ok a)
  | error {vs ws : List Schema.Violation} (h : vs.map place = ws.map place) :
      Alike (.error vs) (.error ws)

section

variable {α β : Type}

theorem Alike.refl (x : Checked α) : Alike x x := by
  rcases x with vs | a
  · exact .error rfl
  · exact .ok a

theorem Alike.map {x x' : Checked α} (h : Alike x x') (f : α → β) : Alike (x.map f) (x'.map f) := by
  cases h with
  | ok a => exact .ok (f a)
  | error h => exact .error h

theorem Alike.also {f f' : Checked (α → β)} {x x' : Checked α} (hf : Alike f f') (hx : Alike x x') :
    Alike (f.also x) (f'.also x') := by
  cases hf with
  | ok g =>
    cases hx with
    | ok a => exact .ok (g a)
    | error hx => exact .error hx
  | error hf =>
    cases hx with
    | ok a => exact .error hf
    | error hx => exact .error (by rw [List.map_append, List.map_append, hf, hx])

end

/-- The first of some names is found alike in objects that agree on these. -/
theorem firstOf_congr {names : List String} (h : Entries.AgreeOn names m m') :
    firstOf m names = firstOf m' names := by
  induction names with
  | nil => rfl
  | cons name names ih =>
    obtain ⟨hname, hnames⟩ := List.forall_mem_cons.mp h
    rw [firstOf, firstOf, List.findSome?_cons, List.findSome?_cons, hname]
    split
    · rfl
    · exact ih hnames

theorem required_alike (path : List String) (h : Entries.AgreeOn (name :: others) m m') :
    Alike (required path m name others) (required path m' name others) := by
  rw [required, required, firstOf_congr h]
  split
  · exact .error rfl
  · exact .refl _
  · exact .refl _

theorem optional_alike (h : Entries.AgreeOn (name :: others) m m') :
    Alike (optional m name others) (optional m' name others) := by
  rw [optional, optional, firstOf_congr h]
  exact .refl _

/-- The members of the credentials that a key needs. -/
def credentialNames : List String := ["kid", "iss", "sub", "aud", "privateKey"]

/-- Whether two members come to the same credentials: they are the same, or two objects that agree on what
a key needs. -/
inductive SameCredentials : Option Value → Option Value → Prop
  | same (v? : Option Value) : SameCredentials v? v?
  | objects {c c' : Entries Value} (h : Entries.AgreeOn credentialNames c c') :
      SameCredentials (some (.map c)) (some (.map c'))

theorem credentialsOf_alike (h : SameCredentials (m.get? "credentials") (m'.get? "credentials")) :
    Alike (credentialsOf m) (credentialsOf m') := by
  rw [credentialsOf, credentialsOf]
  generalize m.get? "credentials" = v?, m'.get? "credentials" = v?' at h
  cases h with
  | same =>
    split
    · exact .error rfl
    · exact .refl _
    · exact .refl _
  | @objects c c' h =>
    have hfield {name : String} (hname : name ∈ credentialNames) :
        Alike (required ["credentials"] c name []) (required ["credentials"] c' name []) :=
      required_alike _ (List.forall_mem_singleton.mpr (h name hname))
    exact (((((hfield (by decide)).map Credentials.mk).also (hfield (by decide))).also
      (hfield (by decide))).also (hfield (by decide))).also (hfield (by decide))

/-- The members that a key needs, the credentials apart, under both of their names. -/
def neededNames : List String :=
  ["id", "publicKey", "public_key", "keyType", "key_type", "keyAlgorithm", "key_algorithm", "validUntil",
    "valid_until"]

/-- Whether two objects have the same in the members that a key needs. -/
structure Agree (m m' : Entries Value) : Prop where
  members : Entries.AgreeOn neededNames m m'
  credentials : SameCredentials (m.get? "credentials") (m'.get? "credentials")

theorem ofEntries_alike (h : Agree m m') : Alike (ofEntries m) (ofEntries m') := by
  have hone {name : String} (hname : name ∈ neededNames) : Entries.AgreeOn [name] m m' :=
    List.forall_mem_singleton.mpr (h.members name hname)
  have htwo {name other : String} (hname : name ∈ neededNames) (hother : other ∈ neededNames) :
      Entries.AgreeOn [name, other] m m' :=
    List.forall_mem_cons.mpr ⟨h.members name hname, hone hother⟩
  exact ((((((required_alike [] (hone (by decide))).map Key.mk).also
    (required_alike [] (htwo (by decide) (by decide)))).also
    (optional_alike (htwo (by decide) (by decide)))).also
    (optional_alike (htwo (by decide) (by decide)))).also
    (optional_alike (htwo (by decide) (by decide)))).also (credentialsOf_alike h.credentials)

/-! ## Texts -/

/-- Whether two attempts to read a key come to the same: the same key, or refusals for violations of the
same kind in the same places. -/
inductive SameOutcome : Except Failure Key → Except Failure Key → Prop
  | accepted (key : Key) : SameOutcome (.ok key) (.ok key)
  | refused {failure failure' : Failure} {vs vs' : List Schema.Violation}
      (hfault : failure.fault = .key (.schema vs)) (hfault' : failure'.fault = .key (.schema vs'))
      (h : vs.map place = vs'.map place) : SameOutcome (.error failure) (.error failure')

/-- The refusal of an object. -/
def schemaFailure (vs : List Schema.Violation) : Failure :=
  .raisedFrom (.key (.schema vs)) (.of (.schema KeyFault.keyName vs))

/-- A text of an object is checked as the object. -/
theorem parse_of_isText {raw : String} (h : Json.IsText (.map m) raw)
    (hdepth : (Value.map m).depth ≤ Json.maxDepth) :
    parse raw = (ofEntries m).mapError schemaFailure := by
  rw [parse, h.isAllBlank_eq_false, (Json.read_of_isText h).1 hdepth]
  dsimp only
  rw [if_neg Bool.false_ne_true]
  rcases ofEntries m with vs | key <;> rfl

/-- Where lists and maps stand too deep in each other, a text is not read. -/
theorem parse_of_maxDepth_lt {raw : String} (h : Json.IsText (.map m) raw)
    (hdepth : Json.maxDepth < (Value.map m).depth) :
    ∃ what, parse raw = .error (.of (.json (.tooDeep what))) := by
  obtain ⟨what, hread⟩ := (Json.read_of_isText h).2 hdepth
  refine ⟨what, ?_⟩
  rw [parse, h.isAllBlank_eq_false, hread]
  rfl

/-- Otherwise it is accepted just if the object describes the key. -/
theorem parse_eq_ok_iff {raw : String} (h : Json.IsText (.map m) raw)
    (hdepth : (Value.map m).depth ≤ Json.maxDepth) {key : Key} : parse raw = .ok key ↔ IsKey m key := by
  rw [parse_of_isText h hdepth, ← ofEntries_eq_ok_iff]
  rcases ofEntries m with vs | key' <;> simp [Except.mapError]

/-- A text of an object is accepted as a key just if the object describes this key, and lists and maps do
not stand too deep in each other.  Where they do, the text is not read, whatever else the object holds.
Where they do not, texts of objects that have the same in the members that a key needs come to the same. -/
theorem parse_spec {m : Entries Value} {raw : String} (h : Json.IsText (.map m) raw) :
    (∀ key, parse raw = .ok key ↔ (Value.map m).depth ≤ Json.maxDepth ∧ IsKey m key) ∧
      (Json.maxDepth < (Value.map m).depth →
        ∃ what, parse raw = .error (.of (.json (.tooDeep what)))) ∧
      ((Value.map m).depth ≤ Json.maxDepth →
        ∀ m' raw', Json.IsText (.map m') raw' → (Value.map m').depth ≤ Json.maxDepth → Agree m m' →
          SameOutcome (parse raw) (parse raw')) := by
  refine ⟨fun key => ?_, parse_of_maxDepth_lt h, fun hdepth m' raw' h' hdepth' hagree => ?_⟩
  · rcases Nat.lt_or_ge Json.maxDepth (Value.map m).depth with hdeep | hdepth
    · obtain ⟨what, hparse⟩ := parse_of_maxDepth_lt h hdeep
      rw [hparse]
      exact iff_of_false (fun heq => nomatch heq) fun hkey => absurd hkey.1 (Nat.not_le.mpr hdeep)
    · rw [parse_eq_ok_iff h hdepth, and_iff_right hdepth]
  · rw [parse_of_isText h hdepth, parse_of_isText h' hdepth']
    have halike := ofEntries_alike hagree
    generalize ofEntries m = x, ofEntries m' = x' at halike
    cases halike with
    | ok key => exact .accepted key
    | error hplaces =>
      exact .refused (Failure.fault_raisedFrom _ _) (Failure.fault_raisedFrom _ _) hplaces

/-- Some credentials, as an object. -/
def sampleCredentials : Entries Value :=
  [("kid", .str "kid-1"), ("iss", .str "i@sa"), ("sub", .str "s-1"), ("aud", .str "https://aud.test"),
    ("privateKey", .str "PEM")]

/-- The key that an object with these credentials describes. -/
def sampleKey : Key :=
  ⟨"k1", "PUB", none, none, none, "kid-1", "i@sa", "s-1", "https://aud.test", "PEM"⟩

theorem isCredentials_sample : IsCredentials sampleCredentials sampleKey.credentials := by
  constructor <;> exact ⟨rfl, by decide⟩

/-- An object that describes a key and has one more member. -/
def withMember (v : Value) : Entries Value :=
  [("id", .str "k1"), ("publicKey", .str "PUB"), ("credentials", .map sampleCredentials), ("more", v)]

theorem isKey_withMember (v : Value) : IsKey (withMember v) sampleKey :=
  ⟨⟨rfl, by decide⟩, ⟨rfl, by decide⟩, .missing, .missing, .missing, _, rfl, isCredentials_sample⟩

theorem isExact_withMember {v : Value} (h : v.IsExact) : (Value.map (withMember v)).IsExact := by
  simp [withMember, sampleCredentials, Entries.keys, h]

theorem lt_depth_withMember (v : Value) : v.depth < (Value.map (withMember v)).depth := by
  simp only [withMember, Value.depth, Value.depthEntries]
  omega

/-- Two objects with their members in another order, and more of them in the second one, in the form
without white space and in the indented one: both are read as the same key.  A third one describes that key
as well, but has a list of lists as one more member, 1500 of them in each other, and is not read. -/
theorem parse_spec_of_reordered :
    let m : Entries Value := [("id", .str "k1"), ("public_key", .str "PUB"), ("keyType", .null),
      ("credentials", .map sampleCredentials)]
    let m' : Entries Value := [("active", .bool true), ("keyType", .null),
      ("credentials", .map (("more", .list [.int 7]) :: sampleCredentials)), ("public_key", .str "PUB"),
      ("id", .str "k1")]
    let deep := withMember (.nested 1499)
    let raw := String.ofList (Json.compact (.map m))
    let raw' := Json.pretty (.map m')
    let rawDeep := String.ofList (Json.compact (.map deep))
    (Json.IsText (.map m) raw ∧ (Value.map m).depth ≤ Json.maxDepth) ∧
      (Json.IsText (.map m') raw' ∧ (Value.map m').depth ≤ Json.maxDepth) ∧ Agree m m' ∧
      parse raw = .ok sampleKey ∧ parse raw' = .ok sampleKey ∧
      Json.IsText (.map deep) rawDeep ∧ IsKey deep sampleKey ∧
      ∃ what, parse rawDeep = .error (.of (.json (.tooDeep what))) := by
  intro m m' deep raw raw' rawDeep
  have hkey : IsKey m sampleKey :=
    ⟨⟨rfl, by decide⟩, ⟨rfl, by decide⟩, .null, .missing, .missing, _, rfl, isCredentials_sample⟩
  have hexact : (Value.map m).IsExact := by simp [m, sampleCredentials, Entries.keys]
  have hexact' : (Value.map m').IsExact := by
    simp [m', sampleCredentials, Entries.keys, Nat.toDigits_of_lt_base, Numeral.maxDigits]
  have hagree : Agree m m' := by
    refine ⟨?_, .objects ?_⟩ <;> simp [Entries.AgreeOn, neededNames, credentialNames, m, m', Entries.get?]
  have hdepth : (Value.map m).depth ≤ Json.maxDepth := by decide
  have hdepth' : (Value.map m').depth ≤ Json.maxDepth := by decide
  have htext := Json.isText_compact hexact
  have htext' := Json.isText_pretty hexact'
  obtain ⟨haccepted, -, hsame⟩ := parse_spec htext
  have hraw : parse raw = .ok sampleKey := (haccepted _).mpr ⟨hdepth, hkey⟩
  have houtcome := hsame hdepth m' raw' htext' hdepth' hagree
  rw [hraw] at houtcome
  generalize hraw' : parse raw' = result at houtcome
  cases houtcome
  have htextDeep := Json.isText_compact (isExact_withMember (Value.isExact_nested 1499))
  have hdeep : Json.maxDepth < (Value.nested 1499).depth := by
    rw [Value.depth_nested]
    decide
  exact ⟨⟨htext, hdepth⟩, ⟨htext', hdepth'⟩, hagree, hraw, rfl, htextDeep, isKey_withMember _,
    (parse_spec htextDeep).2.1 (hdeep.trans (lt_depth_withMember _))⟩

end Key

end Account

end MachineCloud
