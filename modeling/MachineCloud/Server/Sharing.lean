import MachineCloud.Server.Request

/-!
# Shared containers

A request does not copy the containers it is given.  Its metadata and its lists, when a payload has
them, are the caller's own, so that a change to one shows in the request and in every payload built
from it; a payload's labels are a copy.  `Sharing` follows a request and its payloads through such
changes: a payload's member is either its own value or one of the request's containers.
-/

namespace MachineCloud

/-- A container of a request. -/
inductive Container where
  | labels
  | metadata
  | volumes
  | securityGroups
  | serviceAccountMails
deriving DecidableEq, Repr

namespace Container

def wireName : Container → String
  | .labels => "labels"
  | .metadata => "metadata"
  | .volumes => "volumes"
  | .securityGroups => "securityGroups"
  | .serviceAccountMails => "serviceAccountMails"

/-- The containers that payloads share with the request. -/
def shared : List Container := [.metadata, .volumes, .securityGroups, .serviceAccountMails]

def get (r : CreateRequest) : Container → Value
  | .labels => r.labels
  | .metadata => r.metadata
  | .volumes => r.volumes
  | .securityGroups => r.securityGroups
  | .serviceAccountMails => r.serviceAccountMails

def modify (f : Value → Value) (r : CreateRequest) : Container → CreateRequest
  | .labels => { r with labels := f r.labels }
  | .metadata => { r with metadata := f r.metadata }
  | .volumes => { r with volumes := f r.volumes }
  | .securityGroups => { r with securityGroups := f r.securityGroups }
  | .serviceAccountMails => { r with serviceAccountMails := f r.serviceAccountMails }

end Container

/-- A change to a container: a key set, or an item added at the end. -/
inductive Edit where
  | set (key : String) (value : Value)
  | append (value : Value)

/-- A value after a change.  A change that does not go with the value leaves it as it is. -/
def Edit.apply : Edit → Value → Value
  | .set key value, .map entries => .map (Entries.put key value entries)
  | .append value, .list items => .list (items ++ [value])
  | _, v => v

/-- A member of a kept payload: its own value, or a container it shares with the request. -/
inductive Member where
  | own (value : Value)
  | shared (container : Container)

/-- A request with the payloads built from it so far. -/
structure Sharing where
  request : CreateRequest
  payloads : List (Entries Member) := []

namespace Sharing

/-- A payload's member under a key. -/
def memberOf (key : String) (value : Value) : Member :=
  match Container.shared.find? fun c => c.wireName = key with
  | some c => .shared c
  | none => .own value

/-- What a member is now. -/
def current (r : CreateRequest) : Member → Value
  | .own v => v
  | .shared c => c.get r

/-- A payload as it is now. -/
def view (s : Sharing) (payload : Entries Member) : Value :=
  .map (payload.map fun m => (m.1, current s.request m.2))

def views (s : Sharing) : List Value := s.payloads.map s.view

/-- Builds and keeps a payload, and gives it as it is now. -/
def build (s : Sharing) : Except Misfit (Value × Sharing) := do
  let payload ← s.request.toWire
  let kept := payload.map fun m => (m.1, memberOf m.1 m.2)
  return (.map payload, { s with payloads := s.payloads ++ [kept] })

/-- The caller changes a container. -/
def edit (s : Sharing) (c : Container) (e : Edit) : Sharing :=
  { s with request := c.modify e.apply s.request }

/-- Someone changes a member of a kept payload: its own value, or the container behind it. -/
def editPayload (s : Sharing) (index : Nat) (key : String) (e : Edit) : Sharing :=
  match (s.payloads[index]?).bind (Entries.get? key) with
  | none => s
  | some (.shared c) => s.edit c e
  | some (.own v) =>
    { s with payloads := s.payloads.modify index fun p => p.put key (.own (e.apply v)) }

end Sharing

end MachineCloud
