import Chip8.Memory

/-!
# The font

Sixteen glyphs of five rows each stand in memory from address 0x050 on, one for every
hexadecimal digit.  Instructions never change them: writes aimed at the table are dropped.
-/

namespace Chip8.Font

/-- The address of the first glyph. -/
def start : Nat := 0x050

/-- The number of rows of a glyph. -/
def glyphHeight : Nat := 5

/-- The rows of the sixteen glyphs, four pixels wide. -/
def bytes : List UInt8 :=
  [0xF0, 0x90, 0x90, 0x90, 0xF0,
   0x20, 0x60, 0x20, 0x20, 0x70,
   0xF0, 0x10, 0xF0, 0x80, 0xF0,
   0xF0, 0x10, 0xF0, 0x10, 0xF0,
   0x90, 0x90, 0xF0, 0x10, 0x10,
   0xF0, 0x80, 0xF0, 0x10, 0xF0,
   0xF0, 0x80, 0xF0, 0x90, 0xF0,
   0xF0, 0x10, 0x20, 0x40, 0x40,
   0xF0, 0x90, 0xF0, 0x90, 0xF0,
   0xF0, 0x90, 0xF0, 0x10, 0xF0,
   0xF0, 0x90, 0xF0, 0x90, 0x90,
   0xE0, 0x90, 0xE0, 0x90, 0xE0,
   0xF0, 0x80, 0x80, 0x80, 0xF0,
   0xE0, 0x90, 0x90, 0x90, 0xE0,
   0xF0, 0x80, 0xF0, 0x80, 0xF0,
   0xF0, 0x80, 0xF0, 0x80, 0x80]

/-- Whether an address lies in the table. -/
def covers (a : Nat) : Bool := decide (start ≤ a ∧ a < start + bytes.length)

/-- The address of the glyph of a digit. -/
def address (digit : Fin 16) : UInt16 := UInt16.ofNat (start + glyphHeight * digit)

theorem length_bytes : bytes.length = 16 * glyphHeight := rfl

end Chip8.Font

namespace Chip8.Memory

/-- The memory at power-on: the font, and zeros. -/
def powerOn : Memory := blank.store Font.start Font.bytes

/-- A write by an instruction: consecutive bytes, less those that would land in the font. -/
def storeOutsideFont (m : Memory) (a : Nat) (bs : List UInt8) : Memory :=
  m.storeWhere (fun k => !Font.covers k) a bs

end Chip8.Memory
