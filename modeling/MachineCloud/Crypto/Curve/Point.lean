import MachineCloud.Crypto.Curve
import MachineCloud.Crypto.Modular
import MachineCloud.Crypto.Octets

/-!
# Points of a curve

The group that the points of a curve form, the ways to write a point, and the keys of a curve: the
private one is a number below the order, and the public one is that multiple of the generator.
-/

namespace MachineCloud.Curve

inductive Point where
  | infinity
  | affine (x y : Nat)
deriving DecidableEq, Repr

def generator (c : Curve) : Point := .affine c.x c.y

/-- The point on the line through two points of the curve with this slope, mirrored.  The first point
has the coordinates `x₁` and `y₁`, and `x₂` is the first coordinate of the second one. -/
def onLine (c : Curve) (slope x₁ y₁ x₂ : Nat) : Point :=
  let x := subMod (slope * slope) (x₁ + x₂) c.p
  .affine x (subMod (slope * subMod x₁ x c.p) y₁ c.p)

/-- The sum of two points.  Points that mirror each other add up to the one at infinity, and the line
through a point and itself is the tangent. -/
def add (c : Curve) : Point → Point → Point
  | .infinity, q => q
  | q, .infinity => q
  | .affine x₁ y₁, .affine x₂ y₂ =>
    if x₁ ≠ x₂ then c.onLine (quotMod (subMod y₂ y₁ c.p) (subMod x₂ x₁ c.p) c.p) x₁ y₁ x₂
    else if (y₁ + y₂) % c.p = 0 then .infinity
    else c.onLine (quotMod (3 * x₁ * x₁ + c.a) (2 * y₁) c.p) x₁ y₁ x₂

/-- A multiple of a point, by doubling. -/
def multiple (c : Curve) (n : Nat) (q : Point) : Point :=
  if h : n = 0 then .infinity
  else
    have : n / 2 < n := Nat.div_lt_self (Nat.pos_of_ne_zero h) (Nat.lt_succ_self 1)
    let even := c.multiple (n / 2) (c.add q q)
    if n % 2 = 1 then c.add q even else even
termination_by n

/-- The ways to write a point: a byte for the form and the first coordinate, and in the uncompressed
form and the hybrid one also the second.  Where the form does not tell the second coordinate by
itself, the last bit of its byte is that of the second coordinate. -/
def encodings (c : Curve) : Point → List Bytes
  | .infinity => [[0x00]]
  | .affine x y =>
    let first := Octets.ofNat c.width x
    let second := Octets.ofNat c.width y
    let parity := UInt8.ofNat (y % 2)
    [(0x02 + parity) :: first, 0x04 :: (first ++ second), (0x06 + parity) :: (first ++ second)]

/-- Whether bytes are a private key: as many as the order takes, with a number that is neither zero
nor too great.  A public key beside it is the point that belongs to it. -/
def isKey (c : Curve) (scalar : Bytes) (point? : Option Bytes) : Bool :=
  let n := Octets.number scalar
  scalar.length = c.width && 0 < n && n < c.order &&
    point?.all fun point => (c.encodings (c.multiple n c.generator)).contains point

end MachineCloud.Curve
