import MachineCloud.Client

/-!
# Machines and their servers

How a machine's name leads to its server, and when a server that is not there counts as deleted.
These are decisions of the caller; a client makes none of them.
-/

namespace MachineCloud.Machine

variable {m : Type → Type} [Monad m] [MonadExceptOf Failure m]

/-- The label that holds the name of the machine a server was created for. -/
def label : String := "mcm.gardener.cloud/machine"

def selector (name : Value) : Value := .map [(label, name)]

/-- The server created for a machine, if there is one.  More than one is a fault. -/
def findServer (client : Client m) (project region name : Value) : m (Option Server) := do
  match ← client.listServers project region (selector name) with
  | none => throw (Failure.of (.misfit (.length Value.null.kind)))
  | some servers =>
    if 1 < servers.length then
      throw (Failure.of (.value (.severalServers servers.length name.text)))
    return servers.head?

def getServer (client : Client m) (project region name : Value) : m Server := do
  match ← findServer client project region name with
  | some server => return server
  | none => throw (Failure.of (.serverNotFound s!"no server found for machine {name.text}"))

/-- Whether a failure to delete means that there was nothing to delete.  An interrupt never does. -/
def isAlreadyGone (failure : Failure) : Bool :=
  !failure.fault.isInterrupt && failure.isNotFound

/-- Deletes a server; says whether it was there.  Every failure other than that it was not there
passes through as it is. -/
def deleteIfExists (client : Client m) (project region server : Value) : m Bool :=
  tryCatch
    (do
      client.deleteServer project region server
      return true)
    fun failure => if isAlreadyGone failure then return false else throw failure

end MachineCloud.Machine
