import MachineCloud.Attribute

/-!
# Servers and network interfaces

Point-in-time snapshots as the backend sends them.  A field that is missing or null reads as empty;
labels and allowed addresses keep their strings and drop everything else.
-/

namespace MachineCloud

/-- A server.  Labels are null when the backend sent none. -/
structure Server where
  id : Value
  name : Value
  status : Value
  labels : Value := .null

/-- A network interface. -/
structure Nic where
  id : Value
  networkId : Value
  allowedAddresses : Value := .list []
  ipv4 : Value := .null
  mac : Value := .null

def member (data : Entries Value) (key : String) : Value := (data.get? key).getD .null

namespace Server

/-- The server that a backend object describes. -/
def fromWire (data : Value) : Except Misfit Server := do
  let members ← data.asMap "get"
  let labels ← Attribute.labelsFromWire (member members "labels")
  return {
    id := Attribute.stringValue (member members "id")
    name := Attribute.stringValue (member members "name")
    status := Attribute.stringValue (member members "status")
    labels := labels }

def toValue (s : Server) : Value :=
  .map [("id", s.id), ("name", s.name), ("status", s.status), ("labels", s.labels)]

end Server

namespace Nic

/-- The interface that a backend object describes. -/
def fromWire (data : Value) : Except Misfit Nic := do
  let members ← data.asMap "get"
  let allowed ← ((member members "allowedAddresses").orElse (.list [])).asItems
  return {
    id := Attribute.stringValue (member members "id")
    networkId := Attribute.stringValue (member members "networkId")
    allowedAddresses := .list (allowed.filter Value.isStr)
    ipv4 := member members "ipv4"
    mac := member members "mac" }

def toValue (n : Nic) : Value :=
  .map [("id", n.id), ("network_id", n.networkId), ("allowed_addresses", n.allowedAddresses),
    ("ipv4", n.ipv4), ("mac", n.mac)]

end Nic

end MachineCloud
