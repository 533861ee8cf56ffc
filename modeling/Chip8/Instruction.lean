import Chip8.Word
import Chip8.Arithmetic

/-!
# Instructions

`decode` reads a word as an instruction.  It is total: a word outside the documented set is the
instruction `undefined`, which keeps the word so that it can be reported.  Words of group 0
other than the two documented ones call routines of the host processor and are ignored.
-/

namespace Chip8

/-- The operations of the machine, with their operands. -/
inductive Instruction where
  /-- Turn every pixel off. -/
  | clear
  /-- Go back to the caller. -/
  | ret
  /-- A routine of the host processor, ignored. -/
  | hostRoutine (address : Address)
  | jump (target : Address)
  | call (target : Address)
  | skipIfByte (x : Register) (byte : UInt8)
  | skipUnlessByte (x : Register) (byte : UInt8)
  | skipIfEqual (x y : Register)
  | skipUnlessEqual (x y : Register)
  | setByte (x : Register) (byte : UInt8)
  | addByte (x : Register) (byte : UInt8)
  | arithmetic (operation : Arithmetic) (x y : Register)
  | setIndex (address : Address)
  /-- Jump to an address displaced by a register. -/
  | jumpOffset (base : Address)
  /-- A random byte under a mask. -/
  | random (x : Register) (mask : UInt8)
  | draw (x y : Register) (height : Fin 16)
  | skipIfDown (x : Register)
  | skipIfUp (x : Register)
  | readDelay (x : Register)
  /-- Wait for a key to go down. -/
  | awaitKey (x : Register)
  | setDelay (x : Register)
  | setSound (x : Register)
  | addIndex (x : Register)
  /-- Point the index at the glyph of a digit. -/
  | glyph (x : Register)
  /-- Write a register in three decimal digits. -/
  | storeDecimal (x : Register)
  | storeRegisters (last : Register)
  | loadRegisters (last : Register)
  | undefined (word : Word)
deriving DecidableEq, Repr

namespace Instruction

/-- Group 0: the two documented words, and the ignored ones. -/
def ofSystem (w : Word) : Instruction :=
  if w = 0x00E0 then clear else if w = 0x00EE then ret else hostRoutine (Word.nnn w)

/-- Group E, selected by the last two digits. -/
def ofKeys (w : Word) : Instruction :=
  match (Word.nn w).toNat with
  | 0x9E => skipIfDown (Word.x w)
  | 0xA1 => skipIfUp (Word.x w)
  | _ => undefined w

/-- Group F, selected by the last two digits. -/
def ofDevices (w : Word) : Instruction :=
  match (Word.nn w).toNat with
  | 0x07 => readDelay (Word.x w)
  | 0x0A => awaitKey (Word.x w)
  | 0x15 => setDelay (Word.x w)
  | 0x18 => setSound (Word.x w)
  | 0x1E => addIndex (Word.x w)
  | 0x29 => glyph (Word.x w)
  | 0x33 => storeDecimal (Word.x w)
  | 0x55 => storeRegisters (Word.x w)
  | 0x65 => loadRegisters (Word.x w)
  | _ => undefined w

/-- Group 8, selected by the last digit. -/
def ofArithmetic (w : Word) : Instruction :=
  match Arithmetic.ofDigit? (Word.n w) with
  | some operation => arithmetic operation (Word.x w) (Word.y w)
  | none => undefined w

/-- The instruction that a word stands for. -/
def decode (w : Word) : Instruction :=
  match Word.group w with
  | 0x0 => ofSystem w
  | 0x1 => jump (Word.nnn w)
  | 0x2 => call (Word.nnn w)
  | 0x3 => skipIfByte (Word.x w) (Word.nn w)
  | 0x4 => skipUnlessByte (Word.x w) (Word.nn w)
  | 0x5 => if (Word.n w).val = 0 then skipIfEqual (Word.x w) (Word.y w) else undefined w
  | 0x6 => setByte (Word.x w) (Word.nn w)
  | 0x7 => addByte (Word.x w) (Word.nn w)
  | 0x8 => ofArithmetic w
  | 0x9 => if (Word.n w).val = 0 then skipUnlessEqual (Word.x w) (Word.y w) else undefined w
  | 0xA => setIndex (Word.nnn w)
  | 0xB => jumpOffset (Word.nnn w)
  | 0xC => random (Word.x w) (Word.nn w)
  | 0xD => draw (Word.x w) (Word.y w) (Word.n w)
  | 0xE => ofKeys w
  | _ => ofDevices w

end Instruction

end Chip8
