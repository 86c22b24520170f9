import MachineCloud.Number.Binary64

/-!
# Shortest decimal text

The text of a binary64 number: the fewest decimal digits that read back to it, and of those the
nearest to it.  For a number `m · 2 ^ e` the reals that round to it form an interval, closed if `m`
is even.  For one digit, two, and so on, the two neighbours of the number on that decimal grid are
tested against the interval; the first grid with a hit gives the digits.
-/

namespace MachineCloud

/-- Decimal digits with the power of ten of the last one. -/
structure Decimal where
  digits : Nat
  exponent : Int
deriving DecidableEq, Repr, Inhabited

namespace Binary64

/-- `m · 2 ^ e` as a ratio of naturals, numerator first. -/
def ratio (m : Nat) (e : Int) : Nat × Nat :=
  if 0 ≤ e then (m * Nat.pow 2 e.toNat, 1) else (m, Nat.pow 2 (-e).toNat)

/-- Whether the decimal lies among the reals that round to `m · 2 ^ e`.  Both are compared in
quarters of a unit in the last place: the lower bound is half a unit below, or a quarter where the
numbers below are twice as dense. -/
def rounds (m : Nat) (e : Int) (d : Decimal) : Bool :=
  let low := if m = Nat.pow 2 (precision - 1) && minExponent < e then 4 * m - 1 else 4 * m - 2
  let high := 4 * m + 2
  let (num, den) :=
    if 0 ≤ d.exponent then (d.digits * Nat.pow 10 d.exponent.toNat, 1)
    else (d.digits, Nat.pow 10 (-d.exponent).toNat)
  let (up, down) := ratio 1 (e - 2)
  -- num / den against low · up / down and high · up / down
  let lhs := num * down
  let lower := low * up * den
  let upper := high * up * den
  if m % 2 = 0 then lower ≤ lhs && lhs ≤ upper else lower < lhs && lhs < upper

/-- The power of ten just above the number: the least `k` with `m · 2 ^ e < 10 ^ k`, found from an
estimate that is at most one off. -/
def decimalMagnitude (m : Nat) (e : Int) : Int :=
  let (num, den) := ratio m e
  let bits : Int := (bitLength m : Int) + e - 1
  let guess : Int := Int.fdiv (bits * 30103) 100000
  let above (k : Int) : Bool :=
    if 0 ≤ k then num < Nat.pow 10 k.toNat * den else num * Nat.pow 10 (-k).toNat < den
  if above guess then guess
  else if above (guess + 1) then guess + 1
  else guess + 2

/-- The point just below the number (or at it) on the grid of `n` digits. -/
def gridBelow (m : Nat) (e : Int) (magnitude : Int) (n : Nat) : Decimal :=
  let k := magnitude - n
  let (num, den) := ratio m e
  if 0 ≤ k then ⟨num / (den * Nat.pow 10 k.toNat), k⟩
  else ⟨num * Nat.pow 10 (-k).toNat / den, k⟩

/-- Whether the number lies nearer to the grid point below it than to the one above.  A tie goes to
the even digit. -/
def nearerBelow (m : Nat) (e : Int) (d : Decimal) : Bool :=
  let (num, den) := ratio m e
  let (a, b) :=
    if 0 ≤ d.exponent then (num, den * Nat.pow 10 d.exponent.toNat)
    else (num * Nat.pow 10 (-d.exponent).toNat, den)
  -- the number is a / b grid steps, and d.digits of them lie below it
  let twice := 2 * (a - d.digits * b)
  if twice < b then true else if b < twice then false else d.digits % 2 = 0

/-- The hit on the grid of `n` digits, if there is one: the nearer neighbour if both hit. -/
def gridHit? (m : Nat) (e : Int) (magnitude : Int) (n : Nat) : Option Decimal :=
  let below := gridBelow m e magnitude n
  let above : Decimal := ⟨below.digits + 1, below.exponent⟩
  match rounds m e below, rounds m e above with
  | true, true => some (if nearerBelow m e below then below else above)
  | true, false => some below
  | false, true => some above
  | false, false => none

/-- The shortest decimal that reads back to `m · 2 ^ e`.  Seventeen digits always do. -/
def shortest (m : Nat) (e : Int) : Decimal :=
  let magnitude := decimalMagnitude m e
  ((List.range 17).findSome? fun n => gridHit? m e magnitude (n + 1)).getD
    (gridBelow m e magnitude 17)

def digitChars (n : Nat) : List Char := Nat.toDigits 10 n

/-- The digits with zeros at their end removed, and the exponent raised to match. -/
def stripZeros : Nat → Decimal → Decimal
  | 0, d => d
  | n + 1, d =>
    if d.digits ≠ 0 ∧ d.digits % 10 = 0 then stripZeros n ⟨d.digits / 10, d.exponent + 1⟩ else d

/-- An exponent's digits, at least two. -/
def exponentChars (n : Nat) : List Char :=
  if n < 10 then '0' :: digitChars n else digitChars n

/-- Written positionally while the decimal point is at most sixteen places after the first digit
and at most three zeros follow it before the digits, with `.0` on whole numbers; otherwise with one
digit before the point and a signed exponent of at least two digits. -/
def decimalChars (d : Decimal) : List Char :=
  let cs := digitChars d.digits
  let point : Int := d.exponent + cs.length
  if -4 < point && point ≤ 16 then
    if point ≤ 0 then '0' :: '.' :: (List.replicate (-point).toNat '0' ++ cs)
    else if 0 ≤ d.exponent then cs ++ List.replicate d.exponent.toNat '0' ++ ['.', '0']
    else cs.take point.toNat ++ '.' :: cs.drop point.toNat
  else
    let e := point - 1
    let mantissa := match cs with
      | [] => []
      | [c] => [c]
      | c :: rest => c :: '.' :: rest
    mantissa ++ 'e' :: (if e < 0 then '-' else '+') :: exponentChars e.natAbs

def text : Binary64 → String
  | .nan => "nan"
  | .infinite s => if s then "-inf" else "inf"
  | .finite s m e =>
    let body := if m = 0 then ['0', '.', '0'] else decimalChars (stripZeros 17 (shortest m e))
    String.ofList (if s then '-' :: body else body)

end Binary64

end MachineCloud
