import MachineCloud.Client
import MachineCloud.World

/-!
# The client without a backend

A client that gives fixed answers, each of which can be overridden.
-/

namespace MachineCloud

structure Overrides (m : Type → Type) where
  createServer : Option ((project region : Value) → CreateRequest → m (Option Server)) := none
  getServer : Option ((project region server : Value) → m (Option Server)) := none
  deleteServer : Option ((project region server : Value) → m Unit) := none
  listServers : Option ((project region selector : Value) → m (Option (List Server))) := none
  listNics : Option ((project region server : Value) → m (Option (List Nic))) := none
  updateNic : Option ((project region network nic addresses : Value) → m (Option Nic)) := none

namespace Overridden

def createdId : String := "550e8400-e29b-41d4-a716-446655440000"

/-- The name of the server that is always there. -/
def knownName : String := "test-machine"

def client (o : Overrides Action) : Client Action where
  createServer project region request := match o.createServer with
    | some f => f project region request
    | none => return some { id := .str createdId, name := request.name, status := .str "CREATING" }
  getServer project region server := match o.getServer with
    | some f => f project region server
    | none => return some { id := server, name := .str knownName, status := .str "ACTIVE" }
  deleteServer project region server := match o.deleteServer with
    | some f => f project region server
    | none => return
  listServers project region selector := match o.listServers with
    | some f => f project region selector
    | none => return some []
  listNics project region server := match o.listNics with
    | some f => f project region server
    | none => return some []
  updateNic project region network nic addresses := match o.updateNic with
    | some f => f project region network nic addresses
    | none => do
      let items ← Action.ofMisfit addresses.asItems
      return some { id := nic, networkId := network, allowedAddresses := .list items }
  close := return

/-- Notes the call of an override and gives its next reply. -/
def reply (name : String) (arguments : List Value) : Action Reply := do
  Action.note (.called name arguments)
  match ← Action.nextReply name with
  | .failed failure => throw failure
  | r => return r

def Reply.server? : Reply → Option Server
  | .server s => some s
  | _ => none

def Reply.servers? : Reply → Option (List Server)
  | .servers ss => some ss
  | _ => none

def Reply.nic? : Reply → Option Nic
  | .nic n => some n
  | _ => none

def Reply.nics? : Reply → Option (List Nic)
  | .nics ns => some ns
  | _ => none

/-- The overrides that give the replies the world holds under the names it has. -/
def scripted (replies : Entries (List Reply)) : Overrides Action :=
  let given {α : Type} (name : String) (f : α) : Option α :=
    if (replies.get? name).isSome then some f else none
  { createServer := given "create_server_func" fun project region request => Reply.server? <$>
      reply "create_server_func" [project, region, .map [("name", request.name)]]
    getServer := given "get_server_func" fun project region server => Reply.server? <$>
      reply "get_server_func" [project, region, server]
    deleteServer := given "delete_server_func" fun project region server => (fun _ => ()) <$>
      reply "delete_server_func" [project, region, server]
    listServers := given "list_servers_func" fun project region selector => Reply.servers? <$>
      reply "list_servers_func" [project, region, selector]
    listNics := given "get_nics_func" fun project region server => Reply.nics? <$>
      reply "get_nics_func" [project, region, server]
    updateNic := given "update_nic_func" fun project region network nic addresses =>
      Reply.nic? <$> reply "update_nic_func" [project, region, network, nic, addresses] }

end Overridden

end MachineCloud
