import MachineCloud.Failure
import MachineCloud.Server

/-!
# Create requests

What a server is to be created with, and the payload that asks for it.  Empty strings, empty lists
and sizes that are not positive leave their member out of the payload; for labels, networking, boot
volume, agent and metadata being absent differs from being present but empty.
-/

namespace MachineCloud

/-- How the server is connected: by a network, in which an interface is created, or by existing
interfaces.  The network wins if both are given. -/
structure Networking where
  networkId : Value := .str ""
  nicIds : Value := .null

structure VolumeSource where
  type : Value
  id : Value

structure BootVolume where
  size : Value := .int 0
  performanceClass : Value := .str ""
  deleteOnTermination : Value := .null
  source : Option VolumeSource := none

structure Agent where
  provisioned : Value := .null

structure CreateRequest where
  name : Value
  machineType : Value := .str ""
  imageId : Value := .str ""
  labels : Value := .null
  networking : Option Networking := none
  securityGroups : Value := .null
  userData : Value := .str ""
  bootVolume : Option BootVolume := none
  volumes : Value := .null
  keypairName : Value := .str ""
  availabilityZone : Value := .str ""
  affinityGroup : Value := .str ""
  serviceAccountMails : Value := .null
  agent : Option Agent := none
  metadata : Value := .null

/-- The members that are there, in order. -/
def present (members : List (String × Option Value)) : Entries Value :=
  members.filterMap fun m => m.2.map fun v => (m.1, v)

/-- A value unless it counts as absent. -/
def filled (v : Value) : Option Value := if v.isTruthy then some v else none

/-- A value unless it is null. -/
def given : Value → Option Value
  | .null => none
  | v => some v

namespace Networking

/-- The wire form: one of the two, or neither. -/
def toWire (n : Networking) : Value :=
  if n.networkId.isTruthy then .map [("networkId", n.networkId)]
  else if n.nicIds.isTruthy then .map [("nicIds", Attribute.stringsToWire n.nicIds)]
  else .map []

end Networking

namespace VolumeSource

def toWire (s : VolumeSource) : Value := .map [("type", s.type), ("id", s.id)]

end VolumeSource

namespace BootVolume

def toWire (b : BootVolume) : Except Misfit Value := do
  let sized ← b.size.isPositive
  return .map (present [
    ("size", if sized then some b.size else none),
    ("performanceClass", filled b.performanceClass),
    ("deleteOnTermination", given b.deleteOnTermination),
    ("source", b.source.map VolumeSource.toWire)])

end BootVolume

namespace Agent

def toWire (a : Agent) : Value := .map (present [("provisioned", given a.provisioned)])

end Agent

namespace CreateRequest

def hasName (r : CreateRequest) : Bool := r.name.isTruthy

/-- The request, if it has a name. -/
def checked (r : CreateRequest) : Except Fault CreateRequest :=
  if r.hasName then .ok r else .error (.value .emptyServerName)

def toWire (r : CreateRequest) : Except Misfit (Entries Value) := do
  let labels ← Attribute.labelsToWire r.labels
  let userData ← Attribute.userDataToWire r.userData
  let bootVolume ← match r.bootVolume with
    | none => pure none
    | some b => some <$> b.toWire
  return present [
    ("name", some r.name),
    ("machineType", filled r.machineType),
    ("imageId", filled r.imageId),
    ("labels", given labels),
    ("networking", r.networking.map Networking.toWire),
    ("securityGroups", filled (Attribute.stringsToWire r.securityGroups)),
    ("userData", given userData),
    ("bootVolume", bootVolume),
    ("volumes", filled (Attribute.stringsToWire r.volumes)),
    ("keypairName", filled r.keypairName),
    ("availabilityZone", filled r.availabilityZone),
    ("affinityGroup", filled r.affinityGroup),
    ("serviceAccountMails", filled (Attribute.stringsToWire r.serviceAccountMails)),
    ("agent", r.agent.map Agent.toWire),
    ("metadata", given (Attribute.metadataToWire r.metadata))]

end CreateRequest

end MachineCloud
