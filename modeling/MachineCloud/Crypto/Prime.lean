import MachineCloud.Crypto.Modular

/-!
# Prime numbers

The test of Miller and Rabin for odd numbers.  No prime fails it, and a composite number passes the
trial at a base only if it is a strong pseudoprime to it.
-/

namespace MachineCloud.Prime

/-- The bases of the trials: the primes below a hundred. -/
def bases : List Nat :=
  [2, 3, 5, 7, 11, 13, 17, 19, 23, 29, 31, 37, 41, 43, 47, 53, 59, 61, 67, 71, 73, 79, 83, 89, 97]

/-- How often two divides a number, and what is left.  The fuel bounds the divisions. -/
def splitTwos : Nat → Nat → Nat × Nat
  | 0, n => (0, n)
  | fuel + 1, n =>
    if n % 2 = 0 && n ≠ 0 then
      let r := splitTwos fuel (n / 2)
      (r.1 + 1, r.2)
    else (0, n)

/-- Whether `x` is one less than `n`, or becomes so within a number of squarings. -/
def meetsMinusOne (n : Nat) : Nat → Nat → Bool
  | 0, x => x = n - 1
  | squarings + 1, x => x = n - 1 || meetsMinusOne n squarings (x * x % n)

/-- The trial of an odd number at a base that it does not divide. -/
def passes (n base : Nat) : Bool :=
  let (twos, odd) := splitTwos (n.log2 + 1) (n - 1)
  let x := powMod base odd n
  x = 1 || meetsMinusOne n (twos - 1) x

/-- Whether an odd number is prime as far as the trials tell. -/
def isOddPrime (n : Nat) : Bool :=
  n % 2 = 1 && 1 < n && bases.all fun base => base % n = 0 || (n % base ≠ 0 && passes n base)

/-- Whether a prime is twice an odd prime and one more, as far as the trials tell.  Where the half is
prime, a single power settles that the whole is, unless three divides it. -/
def isSafePrime (n : Nat) : Bool :=
  n % 2 = 1 && isOddPrime (n / 2) && n % 3 ≠ 0 && powMod 2 (n - 1) n = 1

end MachineCloud.Prime
