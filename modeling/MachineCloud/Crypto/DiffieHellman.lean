import MachineCloud.Crypto.Prime

/-!
# Diffie-Hellman

The groups in which two parties agree on a key, and which of them are fit for that.
-/

namespace MachineCloud.DiffieHellman

/-- A group of powers modulo a prime: the prime, the number whose powers these are, and how many
powers there are if that is told. -/
structure Group where
  p : Nat
  g : Nat
  q? : Option Nat
deriving DecidableEq, Repr

namespace Group

def minBits : Nat := 512

def maxBits : Nat := 10000

/-- Whether the powers form a group with a prime number of elements, or with twice a prime number if
the number is not told. -/
def hasPrimeOrder (G : Group) : Bool :=
  match G.q? with
  | some q =>
    Prime.isOddPrime G.p && q < G.p && Prime.isOddPrime q && G.p % q = 1 && powMod G.g q G.p = 1
  | none => Prime.isSafePrime G.p

/-- Whether keys can be agreed on in the group. -/
def isFit (G : Group) : Bool :=
  let bits := G.p.log2 + 1
  minBits ≤ bits && bits ≤ maxBits && 1 < G.g && G.g < G.p - 1 && G.hasPrimeOrder

end Group

end MachineCloud.DiffieHellman
