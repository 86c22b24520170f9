import MachineCloud.Server.Request

/-!
# Well-typed requests

A `ServerSpec` holds the parameters of a new server in the types that they should have, and its name is
not empty.  `NormalSpec` is what counts of it: there an absent parameter is `none`, whether it was left
out, empty, or not positive.  The payload is made of that alone (`toWire_toRequest`), so it never fails
on a well-typed request.
-/

namespace MachineCloud

namespace Value

/-- A list of texts. -/
def ofTexts (texts : List String) : Value := .list (texts.map .str)

/-- A value that may be absent. -/
def ofOption (v : Option Value) : Value := v.getD .null

end Value

/-! ## Specifications -/

/-- A map of texts, which has no key twice. -/
structure TextMap where
  entries : Entries String
  nodup : entries.keys.Nodup

/-- The map as a value. -/
def TextMap.toValue (m : TextMap) : Value := .map (m.entries.map fun p => (p.1, .str p.2))

/-- How the server is connected. -/
structure NetworkingSpec where
  networkId : String := ""
  nicIds : Option (List String) := none

/-- Where a boot volume is made from. -/
@[ext]
structure SourceSpec where
  type : String
  id : String
deriving DecidableEq

/-- The volume to boot from. -/
structure VolumeSpec where
  size : Int := 0
  performanceClass : String := ""
  deleteOnTermination : Option Bool := none
  source : Option SourceSpec := none

/-- The agent on the server. -/
@[ext]
structure AgentSpec where
  provisioned : Option Bool := none
deriving DecidableEq

/-- The parameters of a new server. -/
structure ServerSpec where
  name : String
  name_ne_empty : name ≠ ""
  machineType : String := ""
  imageId : String := ""
  labels : Option TextMap := none
  networking : Option NetworkingSpec := none
  securityGroups : Option (List String) := none
  userData : String := ""
  bootVolume : Option VolumeSpec := none
  volumes : Option (List String) := none
  keypairName : String := ""
  availabilityZone : String := ""
  affinityGroup : String := ""
  serviceAccountMails : Option (List String) := none
  agent : Option AgentSpec := none
  metadata : Option (Entries Value) := none

def NetworkingSpec.toNetworking (n : NetworkingSpec) : Networking where
  networkId := .str n.networkId
  nicIds := .ofOption (n.nicIds.map .ofTexts)

def SourceSpec.toSource (s : SourceSpec) : VolumeSource := ⟨.str s.type, .str s.id⟩

def VolumeSpec.toBootVolume (v : VolumeSpec) : BootVolume where
  size := .int v.size
  performanceClass := .str v.performanceClass
  deleteOnTermination := .ofOption (v.deleteOnTermination.map .bool)
  source := v.source.map SourceSpec.toSource

def AgentSpec.toAgent (a : AgentSpec) : Agent := ⟨.ofOption (a.provisioned.map .bool)⟩

/-- The request with these parameters. -/
def ServerSpec.toRequest (s : ServerSpec) : CreateRequest where
  name := .str s.name
  machineType := .str s.machineType
  imageId := .str s.imageId
  labels := .ofOption (s.labels.map TextMap.toValue)
  networking := s.networking.map NetworkingSpec.toNetworking
  securityGroups := .ofOption (s.securityGroups.map .ofTexts)
  userData := .str s.userData
  bootVolume := s.bootVolume.map VolumeSpec.toBootVolume
  volumes := .ofOption (s.volumes.map .ofTexts)
  keypairName := .str s.keypairName
  availabilityZone := .str s.availabilityZone
  affinityGroup := .str s.affinityGroup
  serviceAccountMails := .ofOption (s.serviceAccountMails.map .ofTexts)
  agent := s.agent.map AgentSpec.toAgent
  metadata := .ofOption (s.metadata.map .map)

/-! ## Normal forms -/

/-- A text, which is absent if it is empty. -/
def textUnlessEmpty (s : String) : Option String := if s = "" then none else some s

/-- A list, which is absent also if it is empty. -/
def textsUnlessEmpty (texts : Option (List String)) : Option (List String) :=
  texts.filter fun ts => !ts.isEmpty

/-- What counts of a networking: the network, or else the interfaces, or else nothing. -/
inductive Connection where
  | network (id : String)
  | interfaces (ids : List String)
  | neither
deriving DecidableEq

/-- The network wins if both are given. -/
def NetworkingSpec.normal (n : NetworkingSpec) : Connection :=
  match textUnlessEmpty n.networkId, textsUnlessEmpty n.nicIds with
  | some id, _ => .network id
  | none, some ids => .interfaces ids
  | none, none => .neither

/-- What counts of a boot volume. -/
@[ext]
structure NormalVolume where
  size : Option Int
  performanceClass : Option String
  deleteOnTermination : Option Bool
  source : Option SourceSpec
deriving DecidableEq

/-- A size that is not positive is absent. -/
def VolumeSpec.normal (v : VolumeSpec) : NormalVolume where
  size := if 0 < v.size then some v.size else none
  performanceClass := textUnlessEmpty v.performanceClass
  deleteOnTermination := v.deleteOnTermination
  source := v.source

/-- What counts of a request. -/
structure NormalSpec where
  name : String
  machineType : Option String
  imageId : Option String
  labels : Option TextMap
  networking : Option Connection
  securityGroups : Option (List String)
  userData : Option String
  bootVolume : Option NormalVolume
  volumes : Option (List String)
  keypairName : Option String
  availabilityZone : Option String
  affinityGroup : Option String
  serviceAccountMails : Option (List String)
  agent : Option AgentSpec
  metadata : Option (Entries Value)

/-- Empty texts and lists are absent.  Labels, networking, boot volume, agent and metadata stay present
if they are there, empty or not. -/
def ServerSpec.normal (s : ServerSpec) : NormalSpec where
  name := s.name
  machineType := textUnlessEmpty s.machineType
  imageId := textUnlessEmpty s.imageId
  labels := s.labels
  networking := s.networking.map NetworkingSpec.normal
  securityGroups := textsUnlessEmpty s.securityGroups
  userData := textUnlessEmpty s.userData
  bootVolume := s.bootVolume.map VolumeSpec.normal
  volumes := textsUnlessEmpty s.volumes
  keypairName := textUnlessEmpty s.keypairName
  availabilityZone := textUnlessEmpty s.availabilityZone
  affinityGroup := textUnlessEmpty s.affinityGroup
  serviceAccountMails := textsUnlessEmpty s.serviceAccountMails
  agent := s.agent
  metadata := s.metadata

/-! ## Payloads of normal forms -/

namespace Connection

/-- The members of its wire form. -/
def members : Connection → List (String × Option Value)
  | network id => [("networkId", some (.str id)), ("nicIds", none)]
  | interfaces ids => [("networkId", none), ("nicIds", some (.ofTexts ids))]
  | neither => [("networkId", none), ("nicIds", none)]

def toWire (c : Connection) : Value := .map (present c.members)

end Connection

namespace SourceSpec

/-- The members of its wire form. -/
def members (s : SourceSpec) : List (String × Option Value) :=
  [("type", some (.str s.type)), ("id", some (.str s.id))]

def toWire (s : SourceSpec) : Value := .map (present s.members)

end SourceSpec

namespace NormalVolume

/-- The members of its wire form. -/
def members (v : NormalVolume) : List (String × Option Value) := [
  ("size", v.size.map .int),
  ("performanceClass", v.performanceClass.map .str),
  ("deleteOnTermination", v.deleteOnTermination.map .bool),
  ("source", v.source.map SourceSpec.toWire)]

def toWire (v : NormalVolume) : Value := .map (present v.members)

end NormalVolume

namespace AgentSpec

/-- The members of its wire form. -/
def members (a : AgentSpec) : List (String × Option Value) :=
  [("provisioned", a.provisioned.map .bool)]

def toWire (a : AgentSpec) : Value := .map (present a.members)

end AgentSpec

/-- The members of the payload. -/
def NormalSpec.members (n : NormalSpec) : List (String × Option Value) := [
  ("name", some (.str n.name)),
  ("machineType", n.machineType.map .str),
  ("imageId", n.imageId.map .str),
  ("labels", n.labels.map TextMap.toValue),
  ("networking", n.networking.map Connection.toWire),
  ("securityGroups", n.securityGroups.map .ofTexts),
  ("userData", n.userData.map fun s => .str (Attribute.encodeText s)),
  ("bootVolume", n.bootVolume.map NormalVolume.toWire),
  ("volumes", n.volumes.map .ofTexts),
  ("keypairName", n.keypairName.map .str),
  ("availabilityZone", n.availabilityZone.map .str),
  ("affinityGroup", n.affinityGroup.map .str),
  ("serviceAccountMails", n.serviceAccountMails.map .ofTexts),
  ("agent", n.agent.map AgentSpec.toWire),
  ("metadata", n.metadata.map .map)]

/-! ## Members -/

theorem filled_str (s : String) : filled (.str s) = (textUnlessEmpty s).map .str := by
  by_cases hs : s = "" <;> simp [filled, textUnlessEmpty, Value.isTruthy, hs]

theorem filled_texts (texts : Option (List String)) :
    filled (.ofOption (texts.map .ofTexts)) = (textsUnlessEmpty texts).map .ofTexts := by
  cases texts with
  | none => rfl
  | some ts => cases ts <;> rfl

theorem given_ofOption {α : Type} {f : α → Value} (hf : ∀ a, f a ≠ .null) (a : Option α) :
    given (.ofOption (a.map f)) = a.map f := by
  cases a with
  | none => rfl
  | some a =>
    change given (f a) = some (f a)
    unfold given
    split
    · next hnull => exact absurd hnull (hf a)
    · rfl

/-! ## The payload -/

theorem NetworkingSpec.toWire_toNetworking (n : NetworkingSpec) :
    n.toNetworking.toWire = n.normal.toWire := by
  obtain ⟨networkId, nicIds⟩ := n
  by_cases hid : networkId = ""
  · subst hid
    rcases nicIds with _ | _ | ⟨id, ids⟩ <;> rfl
  · have htruthy : (Value.str networkId).isTruthy = true := by simp [Value.isTruthy, hid]
    simp only [toNetworking, Networking.toWire, htruthy, if_true, normal, textUnlessEmpty, hid,
      if_false]
    rfl

theorem VolumeSpec.toWire_toBootVolume (v : VolumeSpec) :
    v.toBootVolume.toWire = .ok v.normal.toWire := by
  have hsized : (Value.int v.size).isPositive = .ok (decide (0 < v.size)) := rfl
  have hsource (s : SourceSpec) : s.toSource.toWire = s.toWire := rfl
  have hsize : (if decide (0 < v.size) = true then some (.int v.size) else none) =
      v.normal.size.map Value.int := by
    by_cases hpositive : 0 < v.size <;> simp [normal, hpositive]
  rw [BootVolume.toWire, toBootVolume, hsized]
  change Except.ok _ = _
  rw [hsize, filled_str, given_ofOption nofun, Option.map_map]
  rfl

theorem AgentSpec.toWire_toAgent (a : AgentSpec) : a.toAgent.toWire = a.toWire := by
  rw [Agent.toWire, toAgent, given_ofOption nofun]
  rfl

theorem userDataToWire_str (s : String) :
    Attribute.userDataToWire (.str s) =
      .ok (.ofOption ((textUnlessEmpty s).map fun s => .str (Attribute.encodeText s))) := by
  by_cases hs : s = ""
  · subst hs
    rfl
  · simp [Attribute.userDataToWire, textUnlessEmpty, Value.isTruthy, Value.ofOption, hs]

theorem labelsToWire_ofOption (labels : Option TextMap) :
    Attribute.labelsToWire (.ofOption (labels.map TextMap.toValue)) =
      .ok (.ofOption (labels.map TextMap.toValue)) := by
  cases labels <;> rfl

/-- A payload none of whose members fails. -/
theorem CreateRequest.toWire_of_ok {r : CreateRequest} {labels userData : Value}
    {bootVolume : Option Value} (hlabels : Attribute.labelsToWire r.labels = .ok labels)
    (huserData : Attribute.userDataToWire r.userData = .ok userData)
    (hbootVolume : r.bootVolume.mapM BootVolume.toWire = .ok bootVolume) :
    r.toWire = .ok (present [
      ("name", some r.name),
      ("machineType", filled r.machineType),
      ("imageId", filled r.imageId),
      ("labels", given labels),
      ("networking", r.networking.map Networking.toWire),
      ("securityGroups", filled r.securityGroups),
      ("userData", given userData),
      ("bootVolume", bootVolume),
      ("volumes", filled r.volumes),
      ("keypairName", filled r.keypairName),
      ("availabilityZone", filled r.availabilityZone),
      ("affinityGroup", filled r.affinityGroup),
      ("serviceAccountMails", filled r.serviceAccountMails),
      ("agent", r.agent.map Agent.toWire),
      ("metadata", given r.metadata)]) := by
  rw [toWire, hlabels, huserData]
  cases hb : r.bootVolume with
  | none =>
    rw [hb] at hbootVolume
    cases hbootVolume
    rfl
  | some b =>
    rw [hb, Option.mapM_some] at hbootVolume
    rcases hwire : b.toWire with misfit | v
    · rw [hwire] at hbootVolume
      cases hbootVolume
    · rw [hwire] at hbootVolume
      cases hbootVolume
      simp only [hwire]
      rfl

/-- The payload of a well-typed request is made of what counts of it. -/
theorem ServerSpec.toWire_toRequest (s : ServerSpec) :
    s.toRequest.toWire = .ok (present s.normal.members) := by
  have hbootVolume : s.toRequest.bootVolume.mapM BootVolume.toWire =
      .ok (s.normal.bootVolume.map NormalVolume.toWire) := by
    rw [toRequest, normal]
    cases s.bootVolume with
    | none => rfl
    | some v =>
      simp only [Option.map_some, Option.mapM_some, VolumeSpec.toWire_toBootVolume]
      rfl
  have hnetworking : s.toRequest.networking.map Networking.toWire =
      s.normal.networking.map Connection.toWire := by
    simp only [toRequest, normal, Option.map_map]
    exact congrArg (Option.map · s.networking) (funext NetworkingSpec.toWire_toNetworking)
  have hagent : s.toRequest.agent.map Agent.toWire = s.normal.agent.map AgentSpec.toWire := by
    simp only [toRequest, normal, Option.map_map]
    exact congrArg (Option.map · s.agent) (funext AgentSpec.toWire_toAgent)
  rw [CreateRequest.toWire_of_ok (labelsToWire_ofOption s.labels) (userDataToWire_str s.userData)
    hbootVolume, hnetworking, hagent, given_ofOption nofun, given_ofOption nofun]
  simp only [toRequest, filled_str, filled_texts]
  rw [given_ofOption nofun]
  rfl

end MachineCloud
