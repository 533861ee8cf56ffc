import Chip8.Integer

/-!
# Random bytes

Random numbers come from the Threefry block cipher on pairs of 32-bit words, used as a
splittable generator: a key is a pair of words, and enciphering the counters 0 and 1 under it
gives the key of the next draw and the key of this one.  The stream of bytes is therefore a
function of the first key alone (`Key.next`, `Key.byte`).
-/

namespace Chip8.Random

/-- A pair of 32-bit words, a key or a block. -/
@[ext]
structure Key where
  high : UInt32
  low : UInt32
deriving DecidableEq, Repr

/-- Rotate a word to the left. -/
def rotateLeft (w r : UInt32) : UInt32 := (w <<< r) ||| (w >>> (32 - r))

/-- One round: add, rotate, exclusive or. -/
def mix (b : Key) (r : UInt32) : Key :=
  let sum := b.high + b.low
  ⟨sum, rotateLeft b.low r ^^^ sum⟩

/-- Add a pair of round keys to a block. -/
def inject (b : Key) (high low : UInt32) : Key := ⟨b.high + high, b.low + low⟩

/-- The rotations of the even and of the odd groups of four rounds. -/
def evenRotations : List UInt32 := [13, 15, 26, 6]

@[inherit_doc evenRotations]
def oddRotations : List UInt32 := [17, 29, 16, 24]

/-- The third round key, which the two words of a key determine. -/
def parity (k : Key) : UInt32 := k.high ^^^ k.low ^^^ 0x1BD11BDA

/-- Threefry with twenty rounds: five groups of four, each followed by a pair of round keys. -/
def encipher (k block : Key) : Key :=
  let b := inject block k.high k.low
  let b := inject (evenRotations.foldl mix b) k.low (parity k + 1)
  let b := inject (oddRotations.foldl mix b) (parity k) (k.high + 2)
  let b := inject (evenRotations.foldl mix b) k.high (k.low + 3)
  let b := inject (oddRotations.foldl mix b) k.low (parity k + 4)
  inject (evenRotations.foldl mix b) (parity k) (k.high + 5)

namespace Key

/-- The key that a seed stands for, if the seed is a signed 64-bit integer. -/
def ofSeed? (seed : Int) : Option Key :=
  if FitsInt64 seed then some ⟨0, lastWord seed⟩ else none

/-- The key of the draws that follow. -/
def next (k : Key) : Key := encipher k ⟨0, 0⟩

/-- The byte drawn under a key. -/
def byte (k : Key) : UInt8 :=
  let draw := encipher k ⟨0, 1⟩
  let block := encipher (encipher draw ⟨0, 1⟩) ⟨0, 0⟩
  (block.high ^^^ block.low).toUInt8

end Key

end Chip8.Random
