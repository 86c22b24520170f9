/-!
# Arithmetic modulo a number

Differences and powers modulo a number, and quotients modulo a prime.
-/

namespace MachineCloud

/-- `base ^ exponent` modulo `m`, by squaring. -/
def powMod (base exponent m : Nat) : Nat :=
  if h : exponent = 0 then 1 % m
  else
    have : exponent / 2 < exponent := Nat.div_lt_self (Nat.pos_of_ne_zero h) (Nat.lt_succ_self 1)
    let half := powMod base (exponent / 2) m
    let even := half * half % m
    if exponent % 2 = 1 then base * even % m else even
termination_by exponent

def subMod (a b m : Nat) : Nat := (a + (m - b % m)) % m

/-- The quotient of two numbers modulo the prime `p`.  The power of a number with the exponent
`p - 2` is its inverse, and what is divided by zero gives zero. -/
def quotMod (a b p : Nat) : Nat := a * powMod b (p - 2) p % p

end MachineCloud
