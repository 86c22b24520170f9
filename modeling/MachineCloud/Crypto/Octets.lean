import MachineCloud.Text.Utf8

/-!
# Numbers as octets

Natural numbers written in base 256, the most significant octet first.
-/

namespace MachineCloud.Octets

def number (bs : Bytes) : Nat := bs.foldl (fun n b => 256 * n + b.toNat) 0

/-- The last `width` bytes of a number. -/
def ofNat : Nat → Nat → Bytes
  | 0, _ => []
  | width + 1, n => ofNat width (n / 256) ++ [UInt8.ofNat n]

/-- How many bytes a number takes, at least one. -/
def width (n : Nat) : Nat := n.log2 / 8 + 1

theorem length_ofNat (width n : Nat) : (ofNat width n).length = width := by
  induction width generalizing n with
  | zero => rfl
  | succ width ih => rw [ofNat, List.length_append, ih, List.length_singleton]

end MachineCloud.Octets
