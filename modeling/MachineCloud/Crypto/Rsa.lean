import MachineCloud.Crypto.Prime
import MachineCloud.Crypto.Sha512

/-!
# RSA signatures

RSA private keys and PKCS #1 v1.5 signatures with SHA-512.  The arithmetic is on natural numbers, and
the signature is the power of the padded hash as a number.
-/

namespace MachineCloud.Rsa

/-- An RSA private key: besides what signing takes, the primes with the numbers that speed signing
up. -/
structure PrivateKey where
  modulus : Nat
  publicExponent : Nat
  privateExponent : Nat
  prime1 : Nat
  prime2 : Nat
  exponent1 : Nat
  exponent2 : Nat
  coefficient : Nat
deriving DecidableEq, Repr

namespace PrivateKey

/-- Whether the exponents undo each other. -/
def exponentsMatch (k : PrivateKey) : Bool :=
  let order := Nat.lcm (k.prime1 - 1) (k.prime2 - 1)
  k.publicExponent % 2 = 1 && k.publicExponent ≠ 1 &&
    k.publicExponent * k.privateExponent % order = 1 % order

/-- Whether the modulus is the product of two odd primes. -/
def primesMatch (k : PrivateKey) : Bool :=
  k.prime1 * k.prime2 = k.modulus && Prime.isOddPrime k.prime1 && Prime.isOddPrime k.prime2

/-- Whether the remaining numbers are the remainders and the inverse that they should be. -/
def remaindersMatch (k : PrivateKey) : Bool :=
  k.exponent1 = k.privateExponent % (k.prime1 - 1) &&
    k.exponent2 = k.privateExponent % (k.prime2 - 1) &&
    k.coefficient < k.prime1 && k.prime2 * k.coefficient % k.prime1 = 1

/-- Whether the parts of a key belong together. -/
def isConsistent (k : PrivateKey) : Bool :=
  k.primesMatch && k.exponentsMatch && k.remaindersMatch

end PrivateKey

/-- What stands before a SHA-512 hash to name the function. -/
def hashName : Bytes :=
  [0x30, 0x51, 0x30, 0x0d, 0x06, 0x09, 0x60, 0x86, 0x48, 0x01, 0x65, 0x03, 0x04, 0x02, 0x03, 0x05,
    0x00, 0x04, 0x40]

def namedHash (message : Bytes) : Bytes := hashName ++ Sha512.hash message

/-- The named hash of a message, padded to a number of bytes.  At least eight bytes of padding have
to fit. -/
def padded? (length : Nat) (message : Bytes) : Option Bytes :=
  let digest := namedHash message
  if length < digest.length + 11 then none
  else some (0x00 :: 0x01 :: (List.replicate (length - digest.length - 3) 0xFF ++ 0x00 :: digest))

/-- The signature of a message, if the key is large enough. -/
def sign? (k : PrivateKey) (message : Bytes) : Option Bytes :=
  let length := Octets.width k.modulus
  (padded? length message).map fun bs =>
    Octets.ofNat length (powMod (Octets.number bs) k.privateExponent k.modulus)

end MachineCloud.Rsa
