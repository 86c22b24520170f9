import MachineCloud.Failure.Chain
import MachineCloud.Server.Request

/-!
# Clients

What the driver asks of a cloud: six operations on servers and network interfaces, each a single
backend call.  Failures pass through as they are.  An operation may come back without a result.
-/

namespace MachineCloud

/-- A client, whose operations have the effects of `m`. -/
structure Client (m : Type → Type) where
  createServer : (project region : Value) → CreateRequest → m (Option Server)
  getServer : (project region server : Value) → m (Option Server)
  deleteServer : (project region server : Value) → m Unit
  listServers : (project region selector : Value) → m (Option (List Server))
  listNics : (project region server : Value) → m (Option (List Nic))
  updateNic : (project region network nic addresses : Value) → m (Option Nic)
  close : m Unit

namespace Client

variable {m : Type → Type} [Monad m] [MonadExceptOf Failure m] {α : Type}

/-- Does something with a client and closes the client, whatever came of it. -/
def closing (client : Client m) (body : m α) : m α := do
  let result : Except Failure α ← tryCatch (.ok <$> body) fun failure => pure (.error failure)
  client.close
  match result with
  | .ok a => return a
  | .error failure => throw failure

end Client

end MachineCloud
