import MachineCloud.Text.Utf8

/-!
# Base64

The encoder in its two alphabets, and two readers of the standard one.  The strict reader takes only
what the encoder writes; the lenient one skips whatever is not in the alphabet and stops where the
padding is complete.
-/

namespace MachineCloud.Base64

/-- Which two characters stand for 62 and 63. -/
inductive Alphabet where
  | standard
  | urlSafe
deriving DecidableEq, Repr

def Alphabet.char (a : Alphabet) (n : Nat) : Char :=
  if n < 26 then Char.ofNat ('A'.toNat + n)
  else if n < 52 then Char.ofNat ('a'.toNat + (n - 26))
  else if n < 62 then Char.ofNat ('0'.toNat + (n - 52))
  else if n = 62 then (match a with | .standard => '+' | .urlSafe => '-')
  else (match a with | .standard => '/' | .urlSafe => '_')

/-- The encoding of a byte string, three bytes at a time, padded with `=` to whole groups of four
characters. -/
def encode (a : Alphabet) : Bytes → List Char
  | [] => []
  | [x] =>
    let n := x.toNat
    [a.char (n / 4), a.char (n % 4 * 16), '=', '=']
  | [x, y] =>
    let m := x.toNat
    let n := y.toNat
    [a.char (m / 4), a.char (m % 4 * 16 + n / 16), a.char (n % 16 * 4), '=']
  | x :: y :: z :: rest =>
    let l := x.toNat
    let m := y.toNat
    let n := z.toNat
    a.char (l / 4) :: a.char (l % 4 * 16 + m / 16) :: a.char (m % 16 * 4 + n / 64) ::
      a.char (n % 64) :: encode a rest

/-- The encoding in the URL-safe alphabet without padding. -/
def encodeUnpadded (bs : Bytes) : List Char := (encode .urlSafe bs).filter (· ≠ '=')

/-- The sextet that a byte stands for in the standard alphabet. -/
def sextet? (b : UInt8) : Option Nat :=
  let n := b.toNat
  if 65 ≤ n ∧ n ≤ 90 then some (n - 65)
  else if 97 ≤ n ∧ n ≤ 122 then some (n - 97 + 26)
  else if 48 ≤ n ∧ n ≤ 57 then some (n - 48 + 52)
  else if n = 43 then some 62
  else if n = 47 then some 63
  else none

/-- The bytes of whole groups of four sextets, the last of which may be shorter. -/
def join : List Nat → Bytes
  | w :: x :: y :: z :: rest =>
    UInt8.ofNat (w * 4 + x / 16) :: UInt8.ofNat (x % 16 * 16 + y / 4) ::
      UInt8.ofNat (y % 4 * 64 + z) :: join rest
  | [w, x, y] => [UInt8.ofNat (w * 4 + x / 16), UInt8.ofNat (x % 16 * 16 + y / 4)]
  | [w, x] => [UInt8.ofNat (w * 4 + x / 16)]
  | _ => []

/-- The sextets of a text's characters, those outside the alphabet left out. -/
def sextets (cs : List Char) : List Nat :=
  cs.filterMap fun c => if c.toNat < 0x80 then sextet? (UInt8.ofNat c.toNat) else none

/-- The bytes of which a text is the encoding in the standard alphabet, padding included. -/
def decodeStrict? (cs : List Char) : Option Bytes :=
  let bs := join (sextets cs)
  if encode .standard bs = cs then some bs else none

/-- Where the lenient reader stands: how many sextets of the current group it has, how many padding
characters have come since the last of them, and the bits not yet given out. -/
structure Cursor where
  sextets : Nat := 0
  pads : Nat := 0
  bits : Nat := 0
deriving DecidableEq, Repr

/-- The cursor after a sextet, and the byte that the sextet completes, if it does. -/
def Cursor.push (c : Cursor) (s : Nat) : Cursor × Option UInt8 :=
  match c.sextets with
  | 0 => (⟨1, 0, s⟩, none)
  | 1 => (⟨2, 0, s % 16⟩, some (UInt8.ofNat (c.bits * 4 + s / 16)))
  | 2 => (⟨3, 0, s % 4⟩, some (UInt8.ofNat (c.bits * 16 + s / 4)))
  | _ => (⟨0, 0, 0⟩, some (UInt8.ofNat (c.bits * 64 + s)))

/-- Reads on from a cursor.  Padding counts once two sextets of a group are there, and the reader
stops with success when it fills the group; the input may end only between groups. -/
def decodeFrom (c : Cursor) : Bytes → Option Bytes
  | [] => if c.sextets = 0 then some [] else none
  | b :: rest =>
    if b = 0x3D then
      if 2 ≤ c.sextets then
        if 4 ≤ c.sextets + (c.pads + 1) then some []
        else decodeFrom ⟨c.sextets, c.pads + 1, c.bits⟩ rest
      else decodeFrom c rest
    else match sextet? b with
      | none => decodeFrom c rest
      | some s =>
        match c.push s with
        | (c', none) => decodeFrom c' rest
        | (c', some x) => (decodeFrom c' rest).map (x :: ·)

/-- The bytes that a text in the standard alphabet stands for, read leniently. -/
def decodeLenient (bs : Bytes) : Option Bytes := decodeFrom {} bs

end MachineCloud.Base64
