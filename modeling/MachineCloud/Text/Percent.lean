import MachineCloud.Text.Utf8

/-!
# Percent coding

A path segment as its UTF-8 bytes, each unreserved character as itself and every other byte as `%`
and two upper-case hexadecimal digits.
-/

namespace MachineCloud.Percent

/-- Whether a byte stands for itself: letters, digits, `_`, `.`, `-`, `~`. -/
def isUnreserved (b : UInt8) : Bool :=
  let n := b.toNat
  (65 ≤ n && n ≤ 90) || (97 ≤ n && n ≤ 122) || (48 ≤ n && n ≤ 57) ||
    n = 0x5F || n = 0x2E || n = 0x2D || n = 0x7E

def hexDigit (n : Nat) : Char :=
  if n < 10 then Char.ofNat ('0'.toNat + n) else Char.ofNat ('A'.toNat + (n - 10))

/-- The text of one byte. -/
def encodeByte (b : UInt8) : List Char :=
  if isUnreserved b then [Char.ofNat b.toNat]
  else ['%', hexDigit (b.toNat / 16), hexDigit (b.toNat % 16)]

def encodeChars (cs : List Char) : List Char := (Utf8.encodeChars cs).flatMap encodeByte

def encode (s : String) : String := String.ofList (encodeChars s.toList)

def hexValue? (c : Char) : Option Nat :=
  if '0' ≤ c ∧ c ≤ '9' then some (c.toNat - '0'.toNat)
  else if 'A' ≤ c ∧ c ≤ 'F' then some (c.toNat - 'A'.toNat + 10)
  else none

/-- The bytes of a percent-coded text, if every `%` is followed by two hexadecimal digits and every
other character is ASCII. -/
def decodeBytes? : List Char → Option Bytes
  | [] => some []
  | '%' :: h :: l :: rest =>
    match hexValue? h, hexValue? l with
    | some m, some n => (decodeBytes? rest).map (UInt8.ofNat (16 * m + n) :: ·)
    | _, _ => none
  | c :: rest =>
    if c = '%' ∨ 0x80 ≤ c.toNat then none
    else (decodeBytes? rest).map (UInt8.ofNat c.toNat :: ·)

/-- The segment that a percent-coded text stands for. -/
def decodeChars? (cs : List Char) : Option (List Char) :=
  (decodeBytes? cs).bind Utf8.decodeChars?

end MachineCloud.Percent
