/-!
# Instruction words

An instruction is a 16-bit word, read as four hexadecimal digits `G X Y N`.  The first digit is
the group, the next two name registers, and the tail digits serve as immediates of one, two or
three digits.  The two addressing facts every reader needs are that a digit is below 16 and that
a three-digit immediate is an address of the 4096-byte memory; both are carried by the types.
-/

namespace Chip8

/-- A 16-bit instruction word. -/
abbrev Word := UInt16

/-- The number of a general register. -/
abbrev Register := Fin 16

/-- A memory address that fits the three digits of an instruction. -/
abbrev Address := Fin 4096

namespace Word

/-- The first digit, which selects the group of operations. -/
def group (w : Word) : Nat := w.toNat / 4096

/-- The second digit. -/
def x (w : Word) : Register := ⟨w.toNat / 256 % 16, Nat.mod_lt _ (by decide)⟩

/-- The third digit. -/
def y (w : Word) : Register := ⟨w.toNat / 16 % 16, Nat.mod_lt _ (by decide)⟩

/-- The last digit. -/
def n (w : Word) : Fin 16 := ⟨w.toNat % 16, Nat.mod_lt _ (by decide)⟩

/-- The last two digits, a byte. -/
def nn (w : Word) : UInt8 := w.toUInt8

/-- The last three digits, an address. -/
def nnn (w : Word) : Address := ⟨w.toNat % 4096, Nat.mod_lt _ (by decide)⟩

/-- The word whose two bytes stand in memory in this order. -/
def ofBytes (high low : UInt8) : Word := high.toUInt16 <<< 8 ||| low.toUInt16

/-- A word given as an integer; only 0 to 65535 are words. -/
def ofInt? (i : Int) : Option Word :=
  if 0 ≤ i ∧ i < 65536 then some (UInt16.ofNat i.toNat) else none

theorem group_lt (w : Word) : group w < 16 := by
  have := w.toNat_lt
  unfold group
  omega

end Word

/-- The leading digit of an address. -/
def Address.leadingDigit (a : Address) : Register := ⟨a.val / 256, by omega⟩

/-- The low digit of a byte, which names a key or a glyph. -/
def lowDigit (b : UInt8) : Fin 16 := ⟨b.toNat % 16, Nat.mod_lt _ (by decide)⟩

end Chip8
