/-!
# Integers from a host

Numbers come from a host as integers of any size.  Some calls take only those that fit 64 bits
with a sign, others only their last byte.
-/

namespace Chip8

/-- Whether an integer fits 64 bits with a sign. -/
def FitsInt64 (i : Int) : Prop := -0x8000000000000000 ≤ i ∧ i ≤ 0x7FFFFFFFFFFFFFFF

instance (i : Int) : Decidable (FitsInt64 i) := by
  unfold FitsInt64
  infer_instance

/-- Whether an integer fits 64 bits without a sign. -/
def FitsUInt64 (i : Int) : Prop := 0 ≤ i ∧ i ≤ 0xFFFFFFFFFFFFFFFF

instance (i : Int) : Decidable (FitsUInt64 i) := by
  unfold FitsUInt64
  infer_instance

def lastByte (i : Int) : UInt8 := UInt8.ofNat (i % 256).toNat

/-- An integer's last 32 bits. -/
def lastWord (i : Int) : UInt32 := UInt32.ofNat (i % 0x100000000).toNat

end Chip8
