import MachineCloud.Text.Utf8

/-!
# UTF-16 and UTF-32

Characters as units of two or four bytes, with either end of a unit first.  Text in UTF-16 writes
the characters beyond U+FFFF as surrogate pairs.  The readers accept well-formed text only.
-/

namespace MachineCloud

/-- Which end of a unit comes first. -/
inductive ByteOrder where
  | bigEnd
  | littleEnd
deriving DecidableEq, Repr

/-- The number that the bytes of a unit stand for. -/
def ByteOrder.unit (order : ByteOrder) (bs : Bytes) : Nat :=
  match order with
  | .bigEnd => bs.foldl (fun n b => n * 256 + b.toNat) 0
  | .littleEnd => bs.foldr (fun b n => n * 256 + b.toNat) 0

namespace Utf16

/-- Whether a unit is the first half of a surrogate pair. -/
def isHighSurrogate (n : Nat) : Bool := 0xD800 ≤ n && n ≤ 0xDBFF

/-- Whether a unit is the second half of a surrogate pair. -/
def isLowSurrogate (n : Nat) : Bool := 0xDC00 ≤ n && n ≤ 0xDFFF

/-- The character that a surrogate pair stands for. -/
def joinSurrogates (high low : Nat) : Char :=
  Char.ofNat (0x10000 + (high - 0xD800) * 0x400 + (low - 0xDC00))

/-- The units of a byte string, two bytes each. -/
def units? (order : ByteOrder) : Bytes → Option (List Nat)
  | [] => some []
  | a :: b :: rest => (units? order rest).map (order.unit [a, b] :: ·)
  | _ => none

/-- The characters of some units, in which every half of a surrogate pair must stand beside the
other one. -/
def chars? : List Nat → Option (List Char)
  | [] => some []
  | [n] => if isHighSurrogate n || isLowSurrogate n then none else some [Char.ofNat n]
  | m :: n :: rest =>
    if isHighSurrogate m then
      if isLowSurrogate n then (chars? rest).map (joinSurrogates m n :: ·) else none
    else if isLowSurrogate m then none
    else (chars? (n :: rest)).map (Char.ofNat m :: ·)

def decode? (order : ByteOrder) (bs : Bytes) : Option String :=
  ((units? order bs).bind chars?).map String.ofList

end Utf16

namespace Utf32

/-- The units of a byte string, four bytes each. -/
def units? (order : ByteOrder) : Bytes → Option (List Nat)
  | [] => some []
  | a :: b :: c :: d :: rest => (units? order rest).map (order.unit [a, b, c, d] :: ·)
  | _ => none

/-- The character of a unit, unless it is half a surrogate pair or too large. -/
def char? (n : Nat) : Option Char := if n.isValidChar then some (Char.ofNat n) else none

def decode? (order : ByteOrder) (bs : Bytes) : Option String :=
  ((units? order bs).bind fun ns => ns.mapM char?).map String.ofList

end Utf32

end MachineCloud
