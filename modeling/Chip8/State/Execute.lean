import Chip8.Display.Sprite
import Chip8.Instruction
import Chip8.State

/-!
# The effect of an instruction

`State.perform` gives the effect of each instruction on a state whose program counter already
points past it.  An instruction that would leave memory, overflow the call stack or return from
nowhere halts the machine and changes nothing else.  `State.execute` decodes a word, records it
and performs it.
-/

namespace Chip8.State

/-- Perform an operation on two registers.  The flag is written last, so it wins when the
operation's own register is the flag register. -/
def calculate (s : State) (operation : Arithmetic) (x y : Register) : State :=
  let u := if s.dialect.shiftsSecond then s.register y else s.register x
  match operation.eval (s.register x) (s.register y) u with
  | (value, none) => s.setRegister x value
  | (value, some flag) => (s.setRegister x value).setFlag flag

/-- The sprite that a draw instruction puts on the screen: as many rows of memory from the index
on as are visible. -/
def sprite (s : State) (x y : Register) (height : Nat) : Sprite :=
  let top : Fin 32 := ⟨(s.register y).toNat % 32, Nat.mod_lt _ (by decide)⟩
  { left := ⟨(s.register x).toNat % 64, Nat.mod_lt _ (by decide)⟩
    top := top
    rows := s.memory.slice s.index.toNat (Sprite.visibleRows top height) }

/-- Draw a sprite; the flag says whether a lit pixel went out. -/
def draw (s : State) (sprite : Sprite) : State :=
  let mask := sprite.mask
  { s with display := s.display.xor mask }.setFlag (s.display.overlaps mask)

/-- A call: save the return address and jump. -/
def enter (s : State) (target : Address) : State :=
  if s.stack.isFull then s.halt .stackOverflow
  else { s with stack := s.stack.push s.pc, pc := UInt16.ofNat target }

/-- A return: jump to the address saved last. -/
def leave (s : State) : State :=
  if s.stack.isEmpty then s.halt .stackUnderflow
  else { s with stack := s.stack.pop.1, pc := s.stack.pop.2 }

/-- Wait for a key: take the lowest key that went down and mark the keys as seen, or stay at the
same instruction. -/
def awaitKey (s : State) (x : Register) : State :=
  match s.keypad.firstPressed? s.seenKeys with
  | some k => { s with seenKeys := s.keypad }.setRegister x (UInt8.ofNat k)
  | none => { s with pc := s.pc - 2 }

/-- The three decimal digits of a byte. -/
def decimalDigits (b : UInt8) : List UInt8 := [b / 100, b / 10 % 10, b % 10]

/-- Do something with memory from the index on, up to a last offset, or halt if that offset is
past the end. -/
def guarded (s : State) (lastOffset : Nat) (action : State → State) : State :=
  if Memory.size ≤ s.index.toNat + lastOffset then s.halt .outOfBounds else action s

/-- Write bytes to memory from the index on, sparing the font. -/
def storeAtIndex (s : State) (bytes : List UInt8) : State :=
  { s with memory := s.memory.storeOutsideFont s.index.toNat bytes }

/-- Read the registers up to a last one from memory at the index. -/
def loadRegisters (s : State) (last : Register) : State :=
  { s with
    registers := Vector.ofFn fun i : Fin 16 =>
      if i ≤ last then s.memory.read (s.index.toNat + i) else s.register i }

/-- The register that a jump with offset adds by default. -/
def firstRegister : Register := ⟨0, by decide⟩

/-- The effect of an instruction. -/
def perform (s : State) : Instruction → State
  | .clear => { s with display := .blank }
  | .ret => s.leave
  | .hostRoutine _ => s
  | .jump target => { s with pc := UInt16.ofNat target }
  | .call target => s.enter target
  | .skipIfByte x byte => s.skipIf (s.register x == byte)
  | .skipUnlessByte x byte => s.skipIf (s.register x != byte)
  | .skipIfEqual x y => s.skipIf (s.register x == s.register y)
  | .skipUnlessEqual x y => s.skipIf (s.register x != s.register y)
  | .setByte x byte => s.setRegister x byte
  | .addByte x byte => s.setRegister x (s.register x + byte)
  | .arithmetic operation x y => s.calculate operation x y
  | .setIndex address => { s with index := UInt16.ofNat address }
  | .jumpOffset base =>
    let x := if s.dialect.jumpsByDigit then base.leadingDigit else firstRegister
    { s with pc := UInt16.ofNat base + (s.register x).toUInt16 }
  | .random x mask =>
    { s with random := s.random.next }.setRegister x (s.random.byte &&& mask)
  | .draw x y height =>
    let sprite := s.sprite x y height
    if 0 < sprite.rows.length ∧ Memory.size < s.index.toNat + sprite.rows.length then
      s.halt .outOfBounds
    else s.draw sprite
  | .skipIfDown x => s.skipIf (s.keypad.isDown (lowDigit (s.register x)))
  | .skipIfUp x => s.skipIf (!s.keypad.isDown (lowDigit (s.register x)))
  | .readDelay x => s.setRegister x s.delay
  | .awaitKey x => s.awaitKey x
  | .setDelay x => { s with delay := s.register x }
  | .setSound x => { s with sound := s.register x }
  | .addIndex x => { s with index := s.index + (s.register x).toUInt16 }
  | .glyph x => { s with index := Font.address (lowDigit (s.register x)) }
  | .storeDecimal x => s.guarded 2 fun s => s.storeAtIndex (decimalDigits (s.register x))
  | .storeRegisters last =>
    s.guarded last fun s => s.storeAtIndex (s.registers.toList.take (last + 1))
  | .loadRegisters last => s.guarded last fun s => s.loadRegisters last
  | .undefined word =>
    { s with undefinedCount := s.undefinedCount + 1, lastUndefined := word }

/-- Record a word and perform the instruction it stands for. -/
def execute (s : State) (w : Word) : State :=
  { s with opcode := w }.perform (Instruction.decode w)

end Chip8.State
