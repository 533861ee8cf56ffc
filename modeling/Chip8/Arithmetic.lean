/-!
# Register arithmetic

The nine operations on a pair of register values.  Each gives the new value of the first
register and, for sums, differences and shifts, a flag.  A sum's flag is its carry, a
difference's flag says that nothing had to be borrowed, and a shift's flag is the bit that
falls out.
-/

namespace Chip8

/-- An operation on the values of two registers. -/
inductive Arithmetic where
  | copy
  | or
  | and
  | xor
  | add
  | subtract
  | shiftRight
  | subtractFrom
  | shiftLeft
deriving DecidableEq, Repr

namespace Arithmetic

/-- The operation that the last digit of an instruction word selects. -/
def ofDigit? : Nat → Option Arithmetic
  | 0x0 => some copy
  | 0x1 => some or
  | 0x2 => some and
  | 0x3 => some xor
  | 0x4 => some add
  | 0x5 => some subtract
  | 0x6 => some shiftRight
  | 0x7 => some subtractFrom
  | 0xE => some shiftLeft
  | _ => none

/-- The result of an operation and its flag, if it has one.  `a` and `b` are the values of the
first and the second register, `u` is the value that a shift works on. -/
def eval (a b u : UInt8) : Arithmetic → UInt8 × Option Bool
  | copy => (b, none)
  | or => (a ||| b, none)
  | and => (a &&& b, none)
  | xor => (a ^^^ b, none)
  | add => (a + b, some (decide (255 < a.toNat + b.toNat)))
  | subtract => (a - b, some (decide (b ≤ a)))
  | shiftRight => (u >>> 1, some (decide (u &&& 1 = 1)))
  | subtractFrom => (b - a, some (decide (a ≤ b)))
  | shiftLeft => (u <<< 1, some (decide (128 ≤ u)))

end Arithmetic

end Chip8
