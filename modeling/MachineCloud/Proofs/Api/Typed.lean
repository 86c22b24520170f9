import MachineCloud.Proofs.Api.Address
import MachineCloud.Proofs.Server.Spec

/-!
# Well-typed operations

A `TypedOperation` holds its arguments in the types that they should have.  There is always an inquiry
for it, which is that of a call of the API (`inquiry_untyped`).
-/

namespace MachineCloud

/-- An operation of a client with well-typed arguments. -/
inductive TypedOperation where
  | createServer (project region : String) (server : ServerSpec)
  | getServer (project region server : String)
  | deleteServer (project region server : String)
  | listServers (project region : String) (selector : Option TextMap)
  | listNics (project region server : String)
  | updateNic (project region network nic : String) (addresses : List String)

namespace TypedOperation

/-- The operation as the client takes it. -/
def untyped : TypedOperation → Operation
  | createServer project region server =>
    .createServer (.str project) (.str region) server.toRequest
  | getServer project region server => .getServer (.str project) (.str region) (.str server)
  | deleteServer project region server => .deleteServer (.str project) (.str region) (.str server)
  | listServers project region selector =>
    .listServers (.str project) (.str region) (.ofOption (selector.map TextMap.toValue))
  | listNics project region server => .listNics (.str project) (.str region) (.str server)
  | updateNic project region network nic addresses =>
    .updateNic (.str project) (.str region) (.str network) (.str nic) (.ofTexts addresses)

end TypedOperation

/-- The query for a selector.  There is none without a selector, or with an empty one. -/
def TextMap.query? (selector : Option TextMap) : Option String :=
  (selector.filter fun m => !m.entries.isEmpty).map fun m =>
    String.intercalate "," (m.entries.map fun p => s!"{p.1}={p.2}")

theorem Remote.selectorQuery_ofOption (selector : Option TextMap) :
    selectorQuery (.ofOption (selector.map TextMap.toValue)) =
      .ok (.ofOption ((TextMap.query? selector).map .str)) := by
  rcases selector with _ | ⟨_ | ⟨p, rest⟩, _⟩
  · rfl
  · rfl
  · have htexts : ((p :: rest).map fun p => (p.1, Value.str p.2)).map
        (fun p => s!"{p.1}={p.2.text}") = (p :: rest).map fun p => s!"{p.1}={p.2}" := by
      rw [List.map_map]
      rfl
    exact congrArg (fun texts => Except.ok (Value.str (String.intercalate "," texts))) htexts

namespace TypedOperation

/-- The call of the API that the operation makes. -/
def call : TypedOperation → ApiCall
  | createServer project region server =>
    .createServer project region (.map (present server.normal.members))
  | getServer project region server => .getServer project region server
  | deleteServer project region server => .deleteServer project region server
  | listServers project region selector =>
    .listServers project region (.ofOption ((TextMap.query? selector).map .str)) (.bool false)
  | listNics project region server => .listNics project region server
  | updateNic project region network nic addresses =>
    .updateNic project region network nic (.map [("allowedAddresses", .ofTexts addresses)])

/-- A well-typed operation has an inquiry. -/
theorem inquiry_untyped (op : TypedOperation) : op.untyped.inquiry = .ok op.call.inquiry := by
  cases op with
  | createServer project region server =>
    have hchecked : server.toRequest.checked = .ok server.toRequest := by
      have hname : server.toRequest.hasName = true := by
        simp [CreateRequest.hasName, ServerSpec.toRequest, Value.isTruthy, server.name_ne_empty]
      rw [CreateRequest.checked, if_pos hname]
    have hpath : Handle.path (.str project) (.str region) [.str "servers"] = _ :=
      Handle.path_of_texts project region ["servers"]
    have hok : Failure.orThrow id (.ok server.toRequest : Except Fault CreateRequest) =
        (pure server.toRequest : Except Failure CreateRequest) := rfl
    rw [untyped, Operation.inquiry, hchecked, hok, pure_bind, server.toWire_toRequest, hpath]
    rfl
  | getServer project region server =>
    have hpath : Handle.path (.str project) (.str region) [.str "servers", .str server] = _ :=
      Handle.path_of_texts project region ["servers", server]
    rw [untyped, Operation.inquiry, hpath]
    rfl
  | deleteServer project region server =>
    have hpath : Handle.path (.str project) (.str region) [.str "servers", .str server] = _ :=
      Handle.path_of_texts project region ["servers", server]
    rw [untyped, Operation.inquiry, hpath]
    rfl
  | listServers project region selector =>
    have hpath : Handle.path (.str project) (.str region) [.str "servers"] = _ :=
      Handle.path_of_texts project region ["servers"]
    rw [untyped, Operation.inquiry, Remote.selectorQuery_ofOption, hpath]
    rfl
  | listNics project region server =>
    have hpath :
        Handle.path (.str project) (.str region) [.str "servers", .str server, .str "nics"] = _ :=
      Handle.path_of_texts project region ["servers", server, "nics"]
    rw [untyped, Operation.inquiry, hpath]
    rfl
  | updateNic project region network nic addresses =>
    have hpath : Handle.path (.str project) (.str region)
        [.str "networks", .str network, .str "nics", .str nic] = _ :=
      Handle.path_of_texts project region ["networks", network, "nics", nic]
    rw [untyped, Value.ofTexts, Operation.inquiry, Remote.addressPayload_list, hpath]
    rfl

end TypedOperation

end MachineCloud
