/-!
# UTF-8

Characters as bytes and back.  `pieces` cuts any byte string into characters and maximal ill-formed
parts; the strict reader accepts it if there are no such parts, the lenient one puts U+FFFD for
each.
-/

namespace MachineCloud

abbrev Bytes := List UInt8

namespace Utf8

/-- A byte, from a number below 256. -/
def byte (n : Nat) : UInt8 := UInt8.ofNat n

def encodeChar (c : Char) : Bytes :=
  let n := c.toNat
  if n < 0x80 then [byte n]
  else if n < 0x800 then [byte (0xC0 + n / 64), byte (0x80 + n % 64)]
  else if n < 0x10000 then
    [byte (0xE0 + n / 4096), byte (0x80 + n / 64 % 64), byte (0x80 + n % 64)]
  else
    [byte (0xF0 + n / 262144), byte (0x80 + n / 4096 % 64), byte (0x80 + n / 64 % 64),
      byte (0x80 + n % 64)]

def encodeChars (cs : List Char) : Bytes := cs.flatMap encodeChar

def encode (s : String) : Bytes := encodeChars s.toList

/-- How a character of several bytes goes on after its first byte: how many bytes follow, what the
first byte contributes to the code point, and the least and greatest byte that may come next. -/
structure Lead where
  following : Nat
  high : Nat
  least : Nat
  greatest : Nat

/-- What a byte of 0x80 and above starts, if it can start a character.  The bounds of the second
byte keep out overlong forms, surrogates, and code points above U+10FFFF. -/
def lead? (b : Nat) : Option Lead :=
  if b < 0xC2 then none
  else if b < 0xE0 then some ⟨1, b - 0xC0, 0x80, 0xBF⟩
  else if b = 0xE0 then some ⟨2, 0, 0xA0, 0xBF⟩
  else if b = 0xED then some ⟨2, 0xD, 0x80, 0x9F⟩
  else if b < 0xF0 then some ⟨2, b - 0xE0, 0x80, 0xBF⟩
  else if b = 0xF0 then some ⟨3, 0, 0x90, 0xBF⟩
  else if b < 0xF4 then some ⟨3, b - 0xF0, 0x80, 0xBF⟩
  else if b = 0xF4 then some ⟨3, 4, 0x80, 0x8F⟩
  else none

/-- Reads the `n` bytes that still belong to a character, the first of them between `least` and
`greatest`, onto the code point so far.  The result is the character, or `none` where a byte does
not fit, and the bytes not used. -/
def follow : Nat → Nat → Nat → Nat → Bytes → Option Char × Bytes
  | 0, code, _, _, rest => (some (Char.ofNat code), rest)
  | _ + 1, _, _, _, [] => (none, [])
  | n + 1, code, least, greatest, b :: rest =>
    if least ≤ b.toNat ∧ b.toNat ≤ greatest then
      follow n (code * 64 + (b.toNat - 0x80)) 0x80 0xBF rest
    else (none, b :: rest)

/-- The character, or the ill-formed part, that starts with the byte `b`, and what comes after. -/
def next (b : UInt8) (rest : Bytes) : Option Char × Bytes :=
  if b.toNat < 0x80 then (some (Char.ofNat b.toNat), rest)
  else match lead? b.toNat with
    | none => (none, rest)
    | some l => follow l.following l.high l.least l.greatest rest

theorem length_follow_le (n code least greatest : Nat) (bs : Bytes) :
    (follow n code least greatest bs).2.length ≤ bs.length := by
  induction n generalizing code least greatest bs with
  | zero => simp [follow]
  | succ n ih =>
    cases bs with
    | nil => simp [follow]
    | cons b rest =>
      rw [follow]
      split
      · exact Nat.le_succ_of_le (ih ..)
      · exact Nat.le_refl _

theorem length_next_le (b : UInt8) (rest : Bytes) : (next b rest).2.length ≤ rest.length := by
  rw [next]
  split
  · exact Nat.le_refl _
  · split
    · exact Nat.le_refl _
    · exact length_follow_le ..

/-- The characters and maximal ill-formed parts of a byte string, in order. -/
def pieces : Bytes → List (Option Char)
  | [] => []
  | b :: rest => (next b rest).1 :: pieces (next b rest).2
termination_by bs => bs.length
decreasing_by exact Nat.lt_succ_of_le (length_next_le ..)

/-- The characters of a byte string, if it is well formed. -/
def decodeChars? (bs : Bytes) : Option (List Char) := (pieces bs).mapM id

def decode? (bs : Bytes) : Option String := (decodeChars? bs).map String.ofList

/-- The text of a byte string, with U+FFFD for each maximal ill-formed part. -/
def decodeLossy (bs : Bytes) : String :=
  String.ofList ((pieces bs).map fun piece => piece.getD '\uFFFD')

end Utf8

end MachineCloud
