/-!
# Binary64 numbers

The numbers of IEEE 754 binary64 with their values in view: a finite one is `± m · 2 ^ e` with a
53-bit `m`, and every operation is the exact operation on those values followed by one rounding to
the nearest number, ties to the even mantissa.  All arithmetic is on `Nat` and `Int`.
-/

namespace MachineCloud

/-- A binary64 number.  A finite one stands for `± mantissa · 2 ^ exponent`. -/
inductive Binary64 where
  | finite (negative : Bool) (mantissa : Nat) (exponent : Int)
  | infinite (negative : Bool)
  | nan
deriving DecidableEq, Repr, Inhabited

namespace Binary64

/-- The least exponent of a finite number. -/
def minExponent : Int := -1074

/-- The greatest exponent of a finite number. -/
def maxExponent : Int := 971

def precision : Nat := 53

/-- Zero with a sign. -/
def zero (negative : Bool) : Binary64 := .finite negative 0 minExponent

/-- `m / 2 ^ k` rounded to the nearest integer, ties to the even one. -/
def shiftRound (m k : Nat) : Nat :=
  let q := m / Nat.pow 2 k
  let r := m % Nat.pow 2 k
  if 2 * r < Nat.pow 2 k then q
  else if Nat.pow 2 k < 2 * r then q + 1
  else if k = 0 then q
  else q + q % 2

def bitLength (m : Nat) : Nat := if m = 0 then 0 else m.log2 + 1

/-- The number with this mantissa and exponent, where the mantissa may have grown to `2 ^ 53` by
rounding and the exponent may have left the range. -/
def assemble (negative : Bool) (m : Nat) (e : Int) : Binary64 :=
  let (m, e) := if m = Nat.pow 2 precision then (Nat.pow 2 (precision - 1), e + 1) else (m, e)
  if maxExponent < e then .infinite negative else .finite negative m e

/-- The number nearest to `± m · 2 ^ e`, ties to even. -/
def ofDyadic (negative : Bool) (m : Nat) (e : Int) : Binary64 :=
  if m = 0 then zero negative
  else
    let target := max minExponent (e + (bitLength m : Int) - precision)
    if target ≤ e then assemble negative (m * Nat.pow 2 (e - target).toNat) target
    else assemble negative (shiftRound m (target - e).toNat) target

def ofInt (n : Int) : Binary64 := ofDyadic (n < 0) n.natAbs 0

/-- The number nearest to `± num / den`.  The quotient keeps two more bits than the result needs,
and its last bit records whether anything was cut off, so that rounding it is rounding the ratio. -/
def ofRatio (negative : Bool) (num den : Nat) : Binary64 :=
  let k := 56 + bitLength den - bitLength num
  let scaled := num * Nat.pow 2 k
  let q := scaled / den
  let sticky := if scaled % den = 0 then 0 else 1
  ofDyadic negative (2 * q + sticky) (-(k : Int) - 1)

/-- The number of decimal digits of `n`, zero for zero. -/
def decimalLength (n : Nat) : Nat := if n = 0 then 0 else (Nat.toDigits 10 n).length

/-- The number nearest to `± digits · 10 ^ exponent`.  Far outside the range no power of ten is
computed. -/
def ofDecimal (negative : Bool) (digits : Nat) (exponent : Int) : Binary64 :=
  let magnitude := exponent + decimalLength digits
  if digits = 0 then zero negative
  else if 310 < magnitude then .infinite negative
  else if magnitude < -330 then zero negative
  else if 0 ≤ exponent then ofRatio negative (digits * Nat.pow 10 exponent.toNat) 1
  else ofRatio negative digits (Nat.pow 10 (-exponent).toNat)

def signed (negative : Bool) (m : Nat) : Int := if negative then -(m : Int) else m

/-- The integer multiple of `2 ^ e` that `± m · 2 ^ e'` is, for `e ≤ e'`. -/
def scaledTo (e : Int) (negative : Bool) (m : Nat) (e' : Int) : Int :=
  signed negative (m * Nat.pow 2 (e' - e).toNat)

def add : Binary64 → Binary64 → Binary64
  | .nan, _ => .nan
  | _, .nan => .nan
  | .infinite s, .infinite t => if s = t then .infinite s else .nan
  | .infinite s, _ => .infinite s
  | _, .infinite t => .infinite t
  | .finite s m e, .finite t n f =>
    let g := min e f
    let total := scaledTo g s m e + scaledTo g t n f
    if total = 0 then zero (s && t)
    else ofDyadic (total < 0) total.natAbs g

def neg : Binary64 → Binary64
  | .nan => .nan
  | .infinite s => .infinite !s
  | .finite s m e => .finite (!s) m e

def sub (x y : Binary64) : Binary64 := add x (neg y)

/-- Whether `x < y`.  Nothing is less than, or greater than, a NaN. -/
def lt : Binary64 → Binary64 → Bool
  | .nan, _ => false
  | _, .nan => false
  | .infinite s, .infinite t => s && !t
  | .infinite s, _ => s
  | _, .infinite t => !t
  | .finite s m e, .finite t n f =>
    let g := min e f
    scaledTo g s m e < scaledTo g t n f

/-- Whether the two have the same value: the zeros do, and a NaN has none. -/
def eq : Binary64 → Binary64 → Bool
  | .nan, _ => false
  | _, .nan => false
  | .infinite s, .infinite t => s == t
  | .infinite _, _ => false
  | _, .infinite _ => false
  | .finite s m e, .finite t n f =>
    let g := min e f
    scaledTo g s m e = scaledTo g t n f

/-- Whether the integer `n` is less than `x`, decided on the exact values. -/
def intLt (n : Int) : Binary64 → Bool
  | .nan => false
  | .infinite s => !s
  | .finite s m e =>
    let g := min e 0
    n * Nat.pow 2 (-g).toNat < scaledTo g s m e

/-- Whether `x` is less than the integer `n`, decided on the exact values. -/
def ltInt (n : Int) : Binary64 → Bool
  | .nan => false
  | .infinite s => s
  | .finite s m e =>
    let g := min e 0
    scaledTo g s m e < n * Nat.pow 2 (-g).toNat

/-- Whether `x` has the value of the integer `n`. -/
def eqInt (n : Int) : Binary64 → Bool
  | .finite s m e =>
    let g := min e 0
    n * Nat.pow 2 (-g).toNat = scaledTo g s m e
  | _ => false

def isZero : Binary64 → Bool
  | .finite _ m _ => m == 0
  | _ => false

/-- The whole part, cut toward zero; `none` for an infinity or a NaN. -/
def truncate : Binary64 → Option Int
  | .finite s m e =>
    if 0 ≤ e then some (signed s (m * Nat.pow 2 e.toNat))
    else some (signed s (m / Nat.pow 2 (-e).toNat))
  | _ => none

end Binary64

end MachineCloud
