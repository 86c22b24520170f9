import MachineCloud.Client

/-!
# Allowed addresses

The network interfaces of a server are brought to allow some addresses: those they allow already
stay, the missing ones are added at the end, and an interface that lacks none is left alone.
-/

namespace MachineCloud.Machine

def addMissing (addresses : List Value) (address : Value) : List Value :=
  if addresses.any address.same then addresses else addresses ++ [address]

/-- The addresses with those of the wanted ones that are not there, in order. -/
def merge (addresses wanted : List Value) : List Value := wanted.foldl addMissing addresses

/-- Which interfaces are to be touched: those in a network or those listed, or all if neither is
given. -/
structure Scope where
  networkId : Value := .str ""
  nicIds : Value := .null

namespace Scope

/-- Whether one of the two is given. -/
def isRestricted (s : Scope) : Bool := s.networkId.isTruthy || s.nicIds.isTruthy

def admits (s : Scope) (nic : Nic) : Except Misfit Bool :=
  if !s.isRestricted || nic.networkId.same s.networkId then .ok true
  else nic.id.holds (s.nicIds.orElse (.list []))

end Scope

/-- The addresses that an interface is to be given, if it needs any change. -/
def addressUpdate (scope : Scope) (wanted : Value) (nic : Nic) :
    Except Misfit (Option (List Value)) := do
  if !(← scope.admits nic) then return none
  let addresses ← nic.allowedAddresses.asItems
  let merged := merge addresses (← wanted.asItems)
  if merged.length = addresses.length then return none
  return some merged

variable {m : Type → Type} [Monad m] [MonadExceptOf Failure m]

/-- Updates the interfaces that need it, one after the other, and counts them. -/
def updateAll (client : Client m) (project region : Value) (scope : Scope) (wanted : Value) :
    List Nic → m Nat
  | [] => return 0
  | nic :: rest => do
    match ← Failure.orThrow .misfit (addressUpdate scope wanted nic) with
    | none => updateAll client project region scope wanted rest
    | some addresses =>
      let _ ← client.updateNic project region nic.networkId nic.id (.list addresses)
      return (← updateAll client project region scope wanted rest) + 1

/-- Makes sure that the interfaces of a server allow the wanted addresses; says how many interfaces
were updated. -/
def ensureAllowed (client : Client m) (project region server wanted : Value) (scope : Scope) :
    m Nat := do
  if !wanted.isTruthy then return 0
  match ← client.listNics project region server with
  | none | some [] => throw (Failure.of (.lookup (.noInterface server.text)))
  | some nics => updateAll client project region scope wanted nics

end MachineCloud.Machine
