import MachineCloud.Crypto.Curve.Point
import MachineCloud.Crypto.Der

/-!
# The parameters of a curve

How a key tells which curve it is on: by a name, by the curve itself, or not at all.  Of the curves
that are spelled out only three are recognised, and these as they are usually written.
-/

namespace MachineCloud.Curve

open Der (Item)

/-- The numbers over which a curve is given. -/
inductive Field where
  /-- The numbers modulo a prime. -/
  | prime (p : Nat)
  /-- A field with a power of two elements. -/
  | binary (degree : Nat) (basis : Bytes) (parameters : Item)
deriving DecidableEq, Repr

/-- A curve that is spelled out: the version of the form, the field, the coefficients of the
equation, the seed that they were drawn from, the generator, the order and the cofactor. -/
structure Domain where
  version : Nat
  field : Field
  a : Bytes
  b : Bytes
  seed? : Option Bytes
  base : Bytes
  order : Nat
  cofactor? : Option Nat
deriving DecidableEq, Repr

/-- How a key tells its curve. -/
inductive Parameters where
  | named (identifier : Bytes)
  /-- The key leaves the curve to those who know it. -/
  | implicit
  | explicit (domain : Domain)
deriving DecidableEq, Repr

/-- A number that takes one byte. -/
def small? (i : Item) : Option Nat := i.nat?.bind fun n => if n < 0x100 then some n else none

namespace Field

/-- The object identifier of the fields with a prime number of elements. -/
def primeIdentifier : Bytes := [0x2A, 0x86, 0x48, 0xCE, 0x3D, 0x01, 0x01]

/-- The object identifier of the fields with a power of two elements. -/
def binaryIdentifier : Bytes := [0x2A, 0x86, 0x48, 0xCE, 0x3D, 0x01, 0x02]

/-- The field that an item describes: a sequence of the kind of field and what belongs to it. -/
def ofItem? (i : Item) : Option Field := do
  match ← i.sequence? with
  | [kind, j] =>
    let identifier ← kind.identifier?
    if identifier = primeIdentifier then return .prime (← j.nat?)
    else if identifier = binaryIdentifier then
      match ← j.sequence? with
      | [degree, basis, parameters] =>
        return .binary (← degree.nat?) (← basis.identifier?) parameters
      | _ => none
    else none
  | _ => none

end Field

namespace Domain

/-- The coefficients that an item holds, and the seed if it is there.  The seed is kept with the byte
that counts the bits that are left over. -/
def coefficients? (i : Item) : Option (Bytes × Bytes × Option Bytes) := do
  match ← i.sequence? with
  | [a, b] => return (← a.octets?, ← b.octets?, none)
  | [a, b, seed] =>
    let _ ← seed.bits?
    return (← a.octets?, ← b.octets?, some seed.contents)
  | _ => none

/-- The curve that the items of a sequence spell out. -/
def ofItems? : List Item → Option Domain
  | version :: field :: coefficients :: base :: order :: items => do
    let (a, b, seed?) ← coefficients? coefficients
    let cofactor? ← match items with
      | [] => some none
      | [j] => (small? j).map some
      | _ => none
    return {
      version := ← small? version
      field := ← Field.ofItem? field
      a, b, seed?
      base := ← base.octets?
      order := ← order.nat?
      cofactor? }
  | _ => none

end Domain

/-- A curve spelled out in the first version of the form, with the generator uncompressed. -/
def domain (c : Curve) (seed? : Option Bytes) : Domain where
  version := 1
  field := .prime c.p
  a := Octets.ofNat c.width c.a
  b := Octets.ofNat c.width c.b
  seed?
  base := 0x04 :: (Octets.ofNat c.width c.x ++ Octets.ofNat c.width c.y)
  order := c.order
  cofactor? := some 1

/-- The curves that are recognised where they are spelled out, each with its seed. -/
def seeds : List (Curve × Bytes) := [
  (p256, [0x00, 0xC4, 0x9D, 0x36, 0x08, 0x86, 0xE7, 0x04, 0x93, 0x6A, 0x66,
    0x78, 0xE1, 0x13, 0x9D, 0x26, 0xB7, 0x81, 0x9F, 0x7E, 0x90]),
  (p384, [0x00, 0xA3, 0x35, 0x92, 0x6A, 0xA3, 0x19, 0xA2, 0x7A, 0x1D, 0x00,
    0x89, 0x6A, 0x67, 0x73, 0xA4, 0x82, 0x7A, 0xCD, 0xAC, 0x73]),
  (p521, [0x00, 0xD0, 0x9E, 0x88, 0x00, 0x29, 0x1C, 0xB8, 0x53, 0x96, 0xCC,
    0x67, 0x17, 0x39, 0x32, 0x84, 0xAA, 0xA0, 0xDA, 0x64, 0xBA])]

/-- The curve that is spelled out, with its seed or without it. -/
def ofDomain? (d : Domain) : Option Curve :=
  (seeds.find? fun s => d = s.1.domain none || d = s.1.domain (some s.2)).map Prod.fst

/-- The parameters in an item: an object identifier, nothing, or a sequence. -/
def Parameters.ofItem? (i : Item) : Option Parameters :=
  if i = Item.null then some .implicit
  else match i.sequence? with
    | some items => (Domain.ofItems? items).map .explicit
    | none => i.identifier?.map .named

end MachineCloud.Curve
