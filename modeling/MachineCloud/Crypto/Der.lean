import MachineCloud.Crypto.Octets

/-!
# DER

The part of the distinguished encoding rules that key files use: items of a tag, a length and
contents.  Every value has one encoding, so a length or an integer that could be shorter is refused,
and so is whatever follows the last item that belongs to a value.  Tags take one byte.
-/

namespace MachineCloud.Der

/-- The length at the start, and what is left. -/
def readLength? : Bytes → Option (Nat × Bytes)
  | [] => none
  | b :: rest =>
    if b < 0x80 then some (b.toNat, rest)
    else
      let count := b.toNat - 0x80
      let digits := rest.take count
      let length := Octets.number digits
      if count = 0 || 4 < count || rest.length < count || digits.head? = some 0 || length < 0x80
      then none
      else some (length, rest.drop count)

structure Item where
  tag : UInt8
  contents : Bytes
deriving DecidableEq, Repr

/-- The item at the start, and what is left. -/
def readItem? : Bytes → Option (Item × Bytes)
  | [] => none
  | tag :: rest =>
    if tag % 32 = 31 then none
    else (readLength? rest).bind fun (length, body) =>
      if body.length < length then none else some (⟨tag, body.take length⟩, body.drop length)

/-- A length takes at least one byte. -/
theorem length_of_readLength? {bs rest : Bytes} {n : Nat} (h : readLength? bs = some (n, rest)) :
    rest.length < bs.length := by
  match bs with
  | [] => contradiction
  | b :: tail =>
    simp only [readLength?] at h
    split at h
    · obtain ⟨-, rfl⟩ := Prod.mk.inj (Option.some.inj h)
      exact Nat.lt_succ_self _
    · split at h
      · cases h
      · simp only [Option.some.injEq, Prod.mk.injEq] at h
        rw [← h.2, List.length_drop, List.length_cons]
        omega

/-- An item takes at least one byte. -/
theorem length_of_readItem? {bs rest : Bytes} {item : Item}
    (h : readItem? bs = some (item, rest)) : rest.length < bs.length := by
  match bs with
  | [] => contradiction
  | tag :: tail =>
    simp only [readItem?] at h
    split at h
    · contradiction
    · obtain ⟨⟨n, body⟩, hn, h⟩ := Option.bind_eq_some_iff.1 h
      have hlt := length_of_readLength? hn
      dsimp only at h
      split at h
      · contradiction
      · simp only [Option.some.injEq, Prod.mk.injEq] at h
        rw [← h.2, List.length_drop, List.length_cons]
        omega

def items? (bs : Bytes) : Option (List Item) :=
  if bs.isEmpty then some []
  else match _h : readItem? bs with
    | none => none
    | some (item, rest) => (items? rest).map (item :: ·)
termination_by bs.length
decreasing_by exact length_of_readItem? _h

def read? (bs : Bytes) : Option Item :=
  match readItem? bs with
  | some (item, []) => some item
  | _ => none

namespace Item

def integerTag : UInt8 := 0x02

def bitsTag : UInt8 := 0x03

def octetsTag : UInt8 := 0x04

def identifierTag : UInt8 := 0x06

def sequenceTag : UInt8 := 0x30

def setTag : UInt8 := 0x31

/-- The tag of the part of a value that has a number of its own. -/
def partTag (number : UInt8) : UInt8 := 0xA0 + number

/-- The item that stands for no value. -/
def null : Item := ⟨0x05, []⟩

/-- The contents of an item with a certain tag. -/
def tagged? (tag : UInt8) (i : Item) : Option Bytes :=
  if i.tag = tag then some i.contents else none

/-- Bytes that write a number in two's complement, as short as can be and not negative. -/
def readNat? : Bytes → Option Nat
  | [] => none
  | [b] => if b < 0x80 then some b.toNat else none
  | b :: c :: rest =>
    if 0x80 ≤ b || (b = 0 && c < 0x80) then none else some (Octets.number (b :: c :: rest))

/-- An integer that is not negative. -/
def nat? (i : Item) : Option Nat := (i.tagged? integerTag).bind readNat?

def octets? (i : Item) : Option Bytes := i.tagged? octetsTag

/-- A string of bits as bytes: the first byte counts the bits at the end that are left over, and
these are zero. -/
def bits? (i : Item) : Option Bytes :=
  (i.tagged? bitsTag).bind fun
    | [] => none
    | spare :: bs =>
      let last := (bs.getLast?.getD 0).toNat
      if 7 < spare || (bs.isEmpty && spare ≠ 0) || last % Nat.pow 2 spare.toNat ≠ 0 then none
      else some bs

/-- The arcs of an object identifier, in base 128 with a bit that marks all digits but the last.  No
arc starts with a zero digit.  The number holds the digits of the arc so far; an arc that is not
complete counts as none. -/
def arcs? (start : Bool) (number : Nat) : Bytes → Option (List Nat)
  | [] => if start then some [] else none
  | b :: rest =>
    if start && b = 0x80 then none
    else
      let arc := 128 * number + b.toNat % 128
      if b < 0x80 then (arcs? true 0 rest).map (arc :: ·) else arcs? false arc rest

/-- The numbers of an object identifier.  The first two share an arc. -/
def identifierNumbers? (bs : Bytes) : Option (List Nat) :=
  match arcs? true 0 bs with
  | some (first :: arcs) =>
    let root := min (first / 40) 2
    some (root :: (first - 40 * root) :: arcs)
  | _ => none

/-- The length up to which object identifiers are read. -/
def maxIdentifierLength : Nat := 63

def identifier? (i : Item) : Option Bytes :=
  (i.tagged? identifierTag).bind fun bs =>
    if maxIdentifierLength < bs.length || (identifierNumbers? bs).isNone then none else some bs

/-- An object identifier as it is written for people. -/
def dotted (identifier : Bytes) : String :=
  String.intercalate "." (((identifierNumbers? identifier).getD []).map toString)

def sequence? (i : Item) : Option (List Item) := (i.tagged? sequenceTag).bind items?

/-- Whether the encoding of an item comes before that of another one, or is the same. -/
def notAfter (i j : Item) : Bool :=
  i.tag < j.tag || (i.tag = j.tag &&
    (i.contents.length < j.contents.length ||
      (i.contents.length = j.contents.length && i.contents ≤ j.contents)))

/-- Whether items stand in the order of their encodings, as those of a set do. -/
def areOrdered : List Item → Bool
  | i :: j :: rest => i.notAfter j && areOrdered (j :: rest)
  | _ => true

/-- The items of a set's contents. -/
def setItems? (contents : Bytes) : Option (List Item) :=
  (items? contents).bind fun items => if areOrdered items then some items else none

/-- The part with a number at the start of a sequence's items, if it is there, and the items that
are left.  A part holds one item. -/
def optional? (number : UInt8) : List Item → Option (Option Item × List Item)
  | [] => some (none, [])
  | i :: rest =>
    if i.tag = partTag number then (read? i.contents).map fun part => (some part, rest)
    else some (none, i :: rest)

end Item

end MachineCloud.Der
