import Chip8.Proofs.Drawing
import Chip8.Proofs.Representation

/-!
# Strict accesses

Out of bounds, reads of memory and of the stack saturate and writes are dropped, so a missing check
would show only as wrong data.  `State.cycle?` is the cycle with strict accesses: it fails as soon
as an index into memory, the stack, the registers or the keypad is outside.  The checks of the
machine cover every access but one: a return fails on a stack whose pointer is beyond the last slot
(`cycle?_eq_ite`).  In a machine in use there is no such stack.
-/

namespace Chip8

/-! ## Strict reads and writes -/

namespace Memory

def read? (m : Memory) (a : Nat) : Option UInt8 := m.bytes[a]?

def write? (m : Memory) (a : Nat) (b : UInt8) : Option Memory :=
  if a < size then some (m.write a b) else none

/-- Strictly write bytes to consecutive addresses, leaving out those that `keep` rejects. -/
def storeWhere? (keep : Nat → Bool) (m : Memory) (a : Nat) : List UInt8 → Option Memory
  | [] => some m
  | b :: bs => do
    let m' ← if keep a then m.write? a b else some m
    storeWhere? keep m' (a + 1) bs

theorem read?_of_lt (m : Memory) {a : Nat} (h : a < size) : m.read? a = some (m.read a) := by
  have hmin : min a 4095 = a := Nat.min_eq_left (Nat.le_of_lt_succ h)
  simp only [read?, read, hmin]
  exact Vector.getElem?_eq_getElem h

theorem storeWhere?_of_le (keep : Nat → Bool) (m : Memory) {a : Nat} {bs : List UInt8}
    (h : a + bs.length ≤ size) : m.storeWhere? keep a bs = some (m.storeWhere keep a bs) := by
  induction bs generalizing m a with
  | nil => rfl
  | cons b bs ih =>
    rw [List.length_cons] at h
    have hwrite : m.write? a b = some (m.write a b) := if_pos (by omega)
    rw [storeWhere?, storeWhere, hwrite]
    split
    · exact ih _ (by omega)
    · exact ih _ (by omega)

end Memory

namespace CallStack

def slot? (c : CallStack) (i : Nat) : Option UInt16 := c.slots[i]?

def setSlot? (c : CallStack) (i : Nat) (a : UInt16) : Option CallStack :=
  if i < 16 then some (c.setSlot i a) else none

def push? (c : CallStack) (a : UInt16) : Option CallStack := do
  let c' ← c.setSlot? c.pointer.toNat a
  return { c' with pointer := c.pointer + 1 }

def pop? (c : CallStack) : Option (CallStack × UInt16) := do
  let top := c.pointer - 1
  let a ← c.slot? top.toNat
  let c' ← c.setSlot? top.toNat 0
  return ({ c' with pointer := top }, a)

variable {c : CallStack}

theorem slot?_of_lt {i : Nat} (h : i < 16) : c.slot? i = some (c.slot i) := by
  have hmin : min i 15 = i := Nat.min_eq_left (Nat.le_of_lt_succ h)
  simp only [slot?, slot, hmin]
  exact Vector.getElem?_eq_getElem h

theorem push?_of_lt (a : UInt16) (h : c.pointer.toNat < 16) : c.push? a = some (c.push a) := by
  rw [push?, setSlot?, if_pos h]
  rfl

theorem pop?_of_le (htaken : 0 < c.pointer.toNat) (hle : c.pointer.toNat ≤ 16) :
    c.pop? = some c.pop := by
  have htop := toNat_pointer_pop htaken
  rw [pointer_pop] at htop
  have hlt : (c.pointer - 1).toNat < 16 := by omega
  simp only [pop?, slot?_of_lt hlt, setSlot?, if_pos hlt]
  rfl

theorem pop?_of_lt (h : 16 < c.pointer.toNat) : c.pop? = none := by
  have htop := toNat_pointer_pop (c := c) (by omega)
  rw [pointer_pop] at htop
  have hout : c.slot? (c.pointer - 1).toNat = none := Vector.getElem?_eq_none (by omega)
  simp only [pop?, hout]
  rfl

end CallStack

/-- Whether a key is down, if there is such a key. -/
def Keypad.isDown? (p : Keypad) (k : Nat) : Option Bool := p.keys[k]?

theorem Keypad.isDown?_eq (p : Keypad) (k : Fin 16) : p.isDown? k = some (p.isDown k) :=
  Vector.getElem?_eq_getElem k.isLt

/-- The display with these pixels, if all of them are known. -/
def Display.ofLit? (lit : Fin 64 → Fin 32 → Option Bool) : Option Display :=
  if ∀ x y, (lit x y).isSome then some (ofLit fun x y => (lit x y).getD false) else none

theorem Display.ofLit?_eq_some {lit : Fin 64 → Fin 32 → Option Bool} {d : Display}
    (h : ∀ x y, lit x y = some (d.lit x y)) : ofLit? lit = some d := by
  have hall : ∀ x y, (lit x y).isSome := fun x y => by
    rw [h]
    rfl
  rw [ofLit?, if_pos hall]
  refine congrArg some (ext_lit fun x y => ?_)
  rw [lit_ofLit, h]
  rfl

namespace State

/-! ## Strict instructions -/

def register? (s : State) (x : Nat) : Option UInt8 := s.registers[x]?

theorem register?_eq (s : State) (x : Register) : s.register? x = some (s.register x) :=
  Vector.getElem?_eq_getElem x.isLt

def calculate? (s : State) (operation : Arithmetic) (x y : Register) : Option State := do
  let a ← s.register? x
  let b ← s.register? y
  let u := if s.dialect.shiftsSecond then b else a
  return match operation.eval a b u with
    | (value, none) => s.setRegister x value
    | (value, some flag) => (s.setRegister x value).setFlag flag

def enter? (s : State) (target : Address) : Option State :=
  if s.stack.isFull then return s.halt .stackOverflow
  else do
    let stack ← s.stack.push? s.pc
    return { s with stack := stack, pc := UInt16.ofNat target }

def leave? (s : State) : Option State :=
  if s.stack.isEmpty then return s.halt .stackUnderflow
  else do
    let (stack, address) ← s.stack.pop?
    return { s with stack := stack, pc := address }

/-- Whether a sprite sets a pixel of the screen.  Only within the rectangle of the sprite is
memory read. -/
def spritePixel? (s : State) (left top height : Nat) (x : Fin 64) (y : Fin 32) : Option Bool :=
  if (left ≤ x ∧ x < left + 8) ∧ top ≤ y ∧ y < top + height then do
    let row ← s.memory.read? (s.index.toNat + (y - top))
    return row.toNat.testBit (7 - (x - left))
  else return false

def draw? (s : State) (x y : Register) (height : Nat) : Option State := do
  let left := (← s.register? x).toNat % 64
  let top := (← s.register? y).toNat % 32
  let rows := min height (32 - top)
  if 0 < rows ∧ Memory.size < s.index.toNat + rows then return s.halt .outOfBounds
  else do
    let mask ← Display.ofLit? (s.spritePixel? left top height)
    return { s with display := s.display.xor mask }.setFlag (s.display.overlaps mask)

def guarded? (s : State) (lastOffset : Nat) (action : Option State) : Option State :=
  if Memory.size ≤ s.index.toNat + lastOffset then return s.halt .outOfBounds else action

def storeAtIndex? (s : State) (bytes : List UInt8) : Option State := do
  let memory ← s.memory.storeWhere? (fun k => !Font.covers k) s.index.toNat bytes
  return { s with memory := memory }

def loadRegisters? (s : State) (last : Register) : Option State := do
  let registers ← Vector.ofFnM fun i : Fin 16 =>
    if i ≤ last then s.memory.read? (s.index.toNat + i) else return s.register i
  return { s with registers := registers }

/-- The effect of an instruction with strict accesses. -/
def perform? (s : State) : Instruction → Option State
  | .ret => s.leave?
  | .call target => s.enter? target
  | .skipIfByte x byte => return s.skipIf ((← s.register? x) == byte)
  | .skipUnlessByte x byte => return s.skipIf ((← s.register? x) != byte)
  | .skipIfEqual x y => return s.skipIf ((← s.register? x) == (← s.register? y))
  | .skipUnlessEqual x y => return s.skipIf ((← s.register? x) != (← s.register? y))
  | .addByte x byte => return s.setRegister x ((← s.register? x) + byte)
  | .arithmetic operation x y => s.calculate? operation x y
  | .jumpOffset base => do
    let x := if s.dialect.jumpsByDigit then base.leadingDigit else firstRegister
    return { s with pc := UInt16.ofNat base + (← s.register? x).toUInt16 }
  | .draw x y height => s.draw? x y height
  | .skipIfDown x => do
    let key := lowDigit (← s.register? x)
    return s.skipIf (← s.keypad.isDown? key)
  | .skipIfUp x => do
    let key := lowDigit (← s.register? x)
    return s.skipIf (!(← s.keypad.isDown? key))
  | .setDelay x => return { s with delay := ← s.register? x }
  | .setSound x => return { s with sound := ← s.register? x }
  | .addIndex x => return { s with index := s.index + (← s.register? x).toUInt16 }
  | .glyph x => return { s with index := Font.address (lowDigit (← s.register? x)) }
  | .storeDecimal x => s.guarded? 2 do s.storeAtIndex? (decimalDigits (← s.register? x))
  | .storeRegisters last =>
    s.guarded? last (s.storeAtIndex? (s.registers.toList.take (last + 1)))
  | .loadRegisters last => s.guarded? last (s.loadRegisters? last)
  -- The others read nothing by an index.
  | i => return s.perform i

def execute? (s : State) (w : Word) : Option State :=
  { s with opcode := w }.perform? (Instruction.decode w)

def fetch? (s : State) : Option (State × Word) :=
  if Memory.size ≤ s.pc.toNat + 1 then
    return ({ s with fault := some .outOfBounds, opcode := 0 }, 0)
  else do
    let high ← s.memory.read? s.pc.toNat
    let low ← s.memory.read? (s.pc.toNat + 1)
    return ({ s with pc := s.pc + 2 }, Word.ofBytes high low)

/-- A cycle with strict accesses. -/
def cycle? (s : State) : Option State :=
  if s.isHalted then return s
  else do
    let (fetched, word) ← s.fetch?
    if fetched.isHalted then return fetched else fetched.execute? word

/-! ## The checks cover the accesses -/

theorem enter?_eq (s : State) (target : Address) : s.enter? target = some (s.enter target) := by
  unfold enter? enter
  split
  · rfl
  · next hfull =>
    have hfree := CallStack.isFull_eq_false_iff.1 (Bool.not_eq_true _ ▸ hfull)
    rw [CallStack.push?_of_lt _ hfree]
    rfl

theorem leave?_of_le {s : State} (hle : s.stack.pointer.toNat ≤ 16) :
    s.leave? = some s.leave := by
  unfold leave? leave
  split
  · rfl
  · next hempty =>
    have htaken := CallStack.isEmpty_eq_false_iff.1 (Bool.not_eq_true _ ▸ hempty)
    rw [CallStack.pop?_of_le htaken hle]
    rfl

theorem leave?_of_lt {s : State} (h : 16 < s.stack.pointer.toNat) : s.leave? = none := by
  have htaken := CallStack.isEmpty_eq_false_iff.2 (Nat.zero_lt_of_lt h)
  rw [leave?, htaken, if_neg Bool.false_ne_true, CallStack.pop?_of_lt h]
  rfl

theorem spritePixel?_eq {s : State} {left top height : Nat}
    (hfits : ∀ r < height, top + r < 32 → s.index.toNat + r < Memory.size) (x : Fin 64)
    (y : Fin 32) :
    s.spritePixel? left top height x y = some ((s.rowsMask left top height 0).lit x y) := by
  have hy := y.isLt
  simp only [spritePixel?, rowsMask, Display.lit_ofLit]
  by_cases hin : (left ≤ x.val ∧ x.val < left + 8) ∧ top ≤ y.val ∧ y.val < top + height
  · rw [if_pos hin, Memory.read?_of_lt _ (hfits _ (by omega) (by omega)),
      decide_eq_true (by omega), Bool.true_and]
    rfl
  · rw [if_neg hin, decide_eq_false (by omega), Bool.false_and]
    rfl

theorem draw?_eq (s : State) (x y : Register) (height : Fin 16) :
    s.draw? x y height = some (s.perform (.draw x y height)) := by
  simp only [draw?, register?_eq, perform, length_rows_sprite]
  change (if 0 < Sprite.visibleRows (s.spriteTop y) height ∧
    Memory.size < s.index.toNat + Sprite.visibleRows (s.spriteTop y) height then _ else _) = _
  split
  · rfl
  · next hfits =>
    have hrows := visibleRows_beyond_iff (s.spriteTop y) height s.index.toNat
    have hmask : Display.ofLit? (s.spritePixel? ((s.register x).toNat % 64)
        ((s.register y).toNat % 32) height) = some (s.sprite x y height).mask := by
      refine Display.ofLit?_eq_some fun x' y' => ?_
      rw [mask_sprite]
      refine spritePixel?_eq (fun r hr hscreen => ?_) x' y'
      by_contra hout
      exact hfits (hrows.2 ⟨r, hr, hscreen, Nat.le_of_not_lt hout⟩)
    rw [hmask]
    rfl

theorem guarded?_eq {s : State} {lastOffset : Nat} {action : Option State}
    {action' : State → State}
    (h : s.index.toNat + lastOffset < Memory.size → action = some (action' s)) :
    s.guarded? lastOffset action = some (s.guarded lastOffset action') := by
  unfold guarded? guarded
  split
  · rfl
  · next hfits => exact h (Nat.lt_of_not_le hfits)

theorem storeAtIndex?_eq {s : State} {bytes : List UInt8}
    (h : s.index.toNat + bytes.length ≤ Memory.size) :
    s.storeAtIndex? bytes = some (s.storeAtIndex bytes) := by
  rw [storeAtIndex?, Memory.storeWhere?_of_le _ _ h]
  rfl

theorem loadRegisters?_eq {s : State} {last : Register}
    (h : s.index.toNat + last < Memory.size) :
    s.loadRegisters? last = some (s.loadRegisters last) := by
  have hread : (fun i : Fin 16 =>
      if i ≤ last then s.memory.read? (s.index.toNat + i) else return s.register i) =
      fun i => pure (if i ≤ last then s.memory.read (s.index.toNat + i) else s.register i) := by
    funext i
    split
    · next hi =>
      have hle : i.val ≤ last.val := hi
      exact Memory.read?_of_lt _ (by omega)
    · rfl
  rw [loadRegisters?, hread, Vector.ofFnM_pure]
  rfl

/-- Strict accesses give the effect of an instruction, unless it returns on a stack whose pointer
is beyond the last slot. -/
theorem perform?_eq {s : State} {i : Instruction}
    (h : i = .ret → s.stack.pointer.toNat ≤ 16) : s.perform? i = some (s.perform i) := by
  cases i with
  | ret => exact leave?_of_le (h rfl)
  | call target => exact s.enter?_eq target
  | draw x y height => exact s.draw?_eq x y height
  | storeDecimal x =>
    rw [perform?, perform, register?_eq]
    refine guarded?_eq fun hfits => ?_
    exact storeAtIndex?_eq hfits
  | storeRegisters last =>
    rw [perform?, perform]
    refine guarded?_eq fun hfits => storeAtIndex?_eq ?_
    have hlength : (s.registers.toList.take (last + 1)).length ≤ last + 1 := List.length_take_le _ _
    omega
  | loadRegisters last =>
    rw [perform?, perform]
    exact guarded?_eq loadRegisters?_eq
  | arithmetic operation x y =>
    simp only [perform?, calculate?, register?_eq]
    rfl
  | skipIfDown x | skipIfUp x =>
    simp only [perform?, register?_eq, Option.bind_eq_bind, Option.bind_some, Keypad.isDown?_eq]
    rfl
  | skipIfByte x | skipUnlessByte x | skipIfEqual x y | skipUnlessEqual x y | addByte x
  | setDelay x | setSound x | addIndex x | glyph x =>
    simp only [perform?, register?_eq]
    rfl
  | jumpOffset base =>
    simp only [perform?]
    rw [register?_eq]
    rfl
  | _ => rfl

theorem fetch?_eq (s : State) : s.fetch? = some s.fetch := by
  unfold fetch? fetch
  split
  · rfl
  · next hfits =>
    rw [Memory.read?_of_lt _ (by omega), Memory.read?_of_lt _ (by omega)]
    rfl

theorem cycle?_of_halted {s : State} (h : s.isHalted = true) : s.cycle? = some s := by
  rw [cycle?, h]
  rfl

theorem cycle?_of_lt {s : State} (hs : s.fault = none) (hpc : s.pc.toNat < 4095) :
    s.cycle? = { s with opcode := s.nextWord, pc := s.pc + 2 }.perform? (.decode s.nextWord) := by
  have hhalted := isHalted_of_none hs
  rw [cycle?, hhalted, fetch?_eq, fetch_of_lt hpc]
  change (if s.isHalted = true then _ else _) = _
  rw [hhalted]
  rfl

theorem cycle?_of_le {s : State} (hs : s.fault = none) (hpc : 4095 ≤ s.pc.toNat) :
    s.cycle? = some s.cycle := by
  have hhalted := isHalted_of_none hs
  rw [cycle?, hhalted, fetch?_eq, fetch_of_le hpc, cycle_of_le hs hpc]
  rfl

/-- A strict cycle fails in one case only, a return on a stack whose pointer is beyond the last
slot.  Otherwise it is the cycle. -/
theorem cycle?_eq_ite (s : State) :
    s.cycle? =
      if s.fault = none ∧ s.nextWord = 0x00EE ∧ 16 < s.stack.pointer.toNat then none
      else some s.cycle := by
  cases hs : s.fault with
  | some f =>
    have hhalted := isHalted_of_fault hs
    rw [cycle?_of_halted hhalted, cycle_of_halted hhalted,
      if_neg fun h => Option.some_ne_none f h.1]
  | none =>
    rcases Nat.lt_or_ge s.pc.toNat 4095 with hpc | hpc
    · rw [cycle?_of_lt hs hpc]
      split
      · next h =>
        rw [h.2.1, Instruction.decode_return]
        exact leave?_of_lt h.2.2
      · next h =>
        rw [cycle_of_lt hs hpc]
        refine perform?_eq fun hret => ?_
        by_contra hbeyond
        exact h ⟨rfl, Instruction.eq_of_decode_eq_ret hret, Nat.lt_of_not_le hbeyond⟩
    · have hzero : s.nextWord ≠ 0x00EE := by
        rw [nextWord, if_neg (Nat.not_lt.2 hpc)]
        decide
      rw [cycle?_of_le hs hpc, if_neg fun h => hzero h.2.1]

/-- In a machine in use no access of a cycle is out of bounds. -/
theorem strict_cycle_of_reachable {key : Random.Key} {dialect : Dialect} {s : State}
    (h : Reachable key dialect s) : s.cycle? = some s.cycle := by
  have hle := (wellFormed_of_reachable h).stack.pointer_le
  rw [cycle?_eq_ite, if_neg fun hc => Nat.not_lt.2 hle hc.2.2]

/-- A machine that is about to return from the only routine it called. -/
theorem strict_cycle_of_reachable_return :
    let s := (powerOn ⟨0, 0⟩ {}).afterCalls
      [.loadProgram [0x22, 0x04, 0x00, 0x00, 0x00, 0xEE], .run 1 false]
    s.stack.pointer = 1 ∧ s.nextWord = 0x00EE ∧ s.cycle? = some s.cycle := by
  intro s
  have hreach : Reachable ⟨0, 0⟩ {} s := Reachable.powerOn.afterCalls rfl
  have hrun : s.stack.pointer = 1 ∧ s.nextWord = 0x00EE := by decide +kernel
  exact ⟨hrun.1, hrun.2, strict_cycle_of_reachable hreach⟩

end State

end Chip8
