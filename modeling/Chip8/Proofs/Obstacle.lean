import Chip8.State.Cycle

/-!
# What stops an instruction

`State.nextWord` is the word that the next cycle reads, and `State.obstacle` the fault that an
instruction runs into, said without performing it.  An instruction with an obstacle halts the
machine and does nothing else (`perform_of_obstacle`), one without never faults
(`fault_perform`).  So the fault of a whole cycle is known beforehand (`fault_cycle`), and a cycle
that faults changes only the fault and the recorded word (`cycle_of_nextFault`): it can be tried
again, or be skipped.
-/

namespace Chip8

theorem Word.ofBytes_eq (high low : UInt8) :
    Word.ofBytes high low = UInt16.ofNat (256 * high.toNat + low.toNat) := by
  have hhigh := high.toNat_lt
  have hlow := low.toNat_lt
  apply UInt16.toNat.inj
  rw [UInt16.toNat_ofNat_of_lt' (by simp only [UInt16.size]; omega), ofBytes,
    UInt16.toNat_or, UInt16.toNat_shiftLeft, UInt8.toNat_toUInt16, UInt8.toNat_toUInt16]
  have hshift : high.toNat <<< (UInt16.toNat 8 % 16) % 2 ^ 16 = 2 ^ 8 * high.toNat := by
    rw [Nat.shiftLeft_eq, Nat.mul_comm]
    exact Nat.mod_eq_of_lt (by simp; omega)
  rw [hshift, ← Nat.two_pow_add_eq_or_of_lt (by omega)]

/-- A fault if a condition holds. -/
def Fault.when (f : Fault) (condition : Prop) [Decidable condition] : Option Fault :=
  if condition then some f else none

@[simp] theorem Fault.when_eq_some {f g : Fault} {condition : Prop} [Decidable condition] :
    f.when condition = some g ↔ condition ∧ f = g := by
  simp only [Fault.when, Option.ite_none_right_eq_some, Option.some.injEq]

@[simp] theorem Fault.when_eq_none {f : Fault} {condition : Prop} [Decidable condition] :
    f.when condition = none ↔ ¬ condition := by
  simp only [Fault.when, ite_eq_right_iff, reduceCtorEq, imp_false]

namespace State

/-! ## The word and the fault of a cycle -/

/-- The word at the program counter, its high byte first, or zero if it does not fit in memory. -/
def nextWord (s : State) : Word :=
  if s.pc.toNat < 4095 then
    UInt16.ofNat
      (256 * (s.memory.read s.pc.toNat).toNat + (s.memory.read (s.pc.toNat + 1)).toNat)
  else 0

/-- The row of the screen that a sprite begins in. -/
def spriteTop (s : State) (y : Register) : Fin 32 := Fin.ofNat 32 (s.register y).toNat

/-- The fault that an instruction runs into. -/
def obstacle (s : State) : Instruction → Option Fault
  | .ret => Fault.stackUnderflow.when s.stack.isEmpty
  | .call _ => Fault.stackOverflow.when s.stack.isFull
  | .draw _ y height =>
    let rows := Sprite.visibleRows (s.spriteTop y) height
    Fault.outOfBounds.when (0 < rows ∧ Memory.size < s.index.toNat + rows)
  | .storeDecimal _ => Fault.outOfBounds.when (Memory.size ≤ s.index.toNat + 2)
  | .storeRegisters last => Fault.outOfBounds.when (Memory.size ≤ s.index.toNat + last)
  | .loadRegisters last => Fault.outOfBounds.when (Memory.size ≤ s.index.toNat + last)
  | _ => none

/-- The fault that the next cycle runs into. -/
def nextFault (s : State) : Option Fault :=
  if s.pc.toNat < 4095 then s.obstacle (.decode s.nextWord) else some .outOfBounds

/-- Only the stack, the index and the registers can stop an instruction. -/
theorem obstacle_congr {s t : State} (hstack : t.stack = s.stack) (hindex : t.index = s.index)
    (hregisters : t.registers = s.registers) (i : Instruction) : t.obstacle i = s.obstacle i := by
  have htop : ∀ y, t.spriteTop y = s.spriteTop y := fun y => by
    simp only [spriteTop, register, hregisters]
  cases i <;> simp only [obstacle, hstack, hindex, htop]

/-! ## Performing an instruction -/

@[simp] theorem fault_skipIf (s : State) (condition : Bool) :
    (s.skipIf condition).fault = s.fault := by
  cases condition <;> rfl

@[simp] theorem opcode_skipIf (s : State) (condition : Bool) :
    (s.skipIf condition).opcode = s.opcode := by
  cases condition <;> rfl

theorem calculate_eq (s : State) (operation : Arithmetic) (x y : Register) :
    ∃ registers, s.calculate operation x y = { s with registers := registers } := by
  simp only [calculate]
  split
  · exact ⟨_, rfl⟩
  · exact ⟨_, rfl⟩

theorem length_rows_sprite (s : State) (x y : Register) (height : Nat) :
    (s.sprite x y height).rows.length = Sprite.visibleRows (s.spriteTop y) height :=
  Memory.length_slice _ _ _

theorem perform_of_obstacle {s : State} {i : Instruction} {f : Fault}
    (h : s.obstacle i = some f) : s.perform i = s.halt f := by
  cases i with
  | call target =>
    rw [obstacle, Fault.when_eq_some] at h
    simp only [perform, enter, h.1, if_true, ← h.2]
  | ret =>
    rw [obstacle, Fault.when_eq_some] at h
    simp only [perform, leave, h.1, if_true, ← h.2]
  | draw x y height =>
    rw [obstacle, Fault.when_eq_some] at h
    simp only [perform, length_rows_sprite]
    rw [if_pos h.1, h.2]
  | storeDecimal | storeRegisters | loadRegisters =>
    rw [obstacle, Fault.when_eq_some] at h
    rw [perform, guarded, if_pos h.1, h.2]
  | _ => cases h

theorem perform_draw {s : State} {x y : Register} {height : Fin 16}
    (h : s.obstacle (.draw x y height) = none) :
    s.perform (.draw x y height) = s.draw (s.sprite x y height) := by
  rw [obstacle, Fault.when_eq_none] at h
  simp only [perform, length_rows_sprite]
  rw [if_neg h]

theorem fault_perform {s : State} {i : Instruction} (h : s.obstacle i = none) :
    (s.perform i).fault = s.fault := by
  cases i with
  | call target =>
    rw [obstacle, Fault.when_eq_none] at h
    simp only [perform, enter, h, Bool.false_eq_true, if_false]
  | ret =>
    rw [obstacle, Fault.when_eq_none] at h
    simp only [perform, leave, h, Bool.false_eq_true, if_false]
  | draw x y height =>
    rw [perform_draw h]
    rfl
  | storeDecimal | storeRegisters | loadRegisters =>
    rw [obstacle, Fault.when_eq_none] at h
    rw [perform, guarded, if_neg h]
    rfl
  | arithmetic operation x y =>
    obtain ⟨registers, heq⟩ := s.calculate_eq operation x y
    simp only [perform, heq]
  | awaitKey x =>
    simp only [perform, awaitKey]
    split
    · rfl
    · rfl
  | skipIfByte | skipUnlessByte | skipIfEqual | skipUnlessEqual | skipIfDown | skipIfUp =>
    exact fault_skipIf s _
  | _ => rfl

@[simp] theorem opcode_perform (s : State) (i : Instruction) : (s.perform i).opcode = s.opcode := by
  cases i with
  | arithmetic operation x y =>
    obtain ⟨registers, heq⟩ := s.calculate_eq operation x y
    simp only [perform, heq]
  | call | ret | draw =>
    simp only [perform, enter, leave]
    split
    · rfl
    · rfl
  | awaitKey x =>
    simp only [perform, awaitKey]
    split
    · rfl
    · rfl
  | storeDecimal | storeRegisters | loadRegisters =>
    simp only [perform, guarded]
    split
    · rfl
    · rfl
  | skipIfByte | skipUnlessByte | skipIfEqual | skipUnlessEqual | skipIfDown | skipIfUp =>
    exact opcode_skipIf s _
  | _ => rfl

/-! ## Fetching and cycling -/

theorem fetch_of_lt {s : State} (h : s.pc.toNat < 4095) :
    s.fetch = ({ s with pc := s.pc + 2 }, s.nextWord) := by
  have hfits : ¬ Memory.size ≤ s.pc.toNat + 1 := by
    unfold Memory.size
    omega
  rw [fetch, if_neg hfits, nextWord, if_pos h, Word.ofBytes_eq]

theorem fetch_of_le {s : State} (h : 4095 ≤ s.pc.toNat) :
    s.fetch = ({ s with fault := some .outOfBounds, opcode := s.nextWord }, 0) := by
  have hout : Memory.size ≤ s.pc.toNat + 1 := by
    unfold Memory.size
    omega
  rw [fetch, if_pos hout, nextWord, if_neg (Nat.not_lt.2 h)]

/-- A machine that is not halted performs the word at its program counter, if there is one. -/
theorem cycle_of_lt {s : State} (hs : s.fault = none) (h : s.pc.toNat < 4095) :
    s.cycle =
      { s with opcode := s.nextWord, pc := s.pc + 2 }.perform (.decode s.nextWord) := by
  simp only [cycle, isHalted, hs, fetch_of_lt h, execute, Option.isSome_none,
    Bool.false_eq_true, if_false]

theorem cycle_of_le {s : State} (hs : s.fault = none) (h : 4095 ≤ s.pc.toNat) :
    s.cycle = { s with fault := some .outOfBounds, opcode := s.nextWord } := by
  simp only [cycle, isHalted, hs, fetch_of_le h, Option.isSome_none, Bool.false_eq_true,
    if_false, Option.isSome_some, if_true]

theorem cycle_of_nextFault {s : State} {f : Fault} (hs : s.fault = none)
    (h : s.nextFault = some f) :
    s.cycle = { s with fault := some f, opcode := s.nextWord } := by
  unfold nextFault at h
  split at h
  · next hpc =>
    have hobstacle : { s with opcode := s.nextWord, pc := s.pc + 2 }.obstacle
        (.decode s.nextWord) = some f :=
      (obstacle_congr rfl rfl rfl _).trans h
    rw [cycle_of_lt hs hpc, perform_of_obstacle hobstacle, halt]
    simp only [UInt16.add_sub_cancel]
  · next hpc =>
    cases h
    exact cycle_of_le hs (Nat.le_of_not_lt hpc)

theorem fault_cycle {s : State} (hs : s.fault = none) : s.cycle.fault = s.nextFault := by
  cases h : s.nextFault with
  | some f => rw [cycle_of_nextFault hs h]
  | none =>
    unfold nextFault at h
    split at h
    · next hpc =>
      have hobstacle : { s with opcode := s.nextWord, pc := s.pc + 2 }.obstacle
          (.decode s.nextWord) = none :=
        (obstacle_congr rfl rfl rfl _).trans h
      rw [cycle_of_lt hs hpc, fault_perform hobstacle]
      exact hs
    · cases h

theorem opcode_cycle {s : State} (hs : s.fault = none) : s.cycle.opcode = s.nextWord := by
  rcases Nat.lt_or_ge s.pc.toNat 4095 with hpc | hpc
  · rw [cycle_of_lt hs hpc, opcode_perform]
  · rw [cycle_of_le hs hpc]

theorem cycle_of_fault {s : State} (hs : s.fault = none) (hf : s.cycle.fault ≠ none) :
    s.cycle = { s with fault := s.cycle.fault, opcode := s.nextWord } := by
  obtain ⟨f, hf⟩ := Option.ne_none_iff_exists'.1 hf
  rw [hf]
  exact cycle_of_nextFault hs ((fault_cycle hs).symm.trans hf)

/-! ## Trying again -/

/-- A cycle writes the recorded word before anything reads it. -/
theorem cycle_opcode {s : State} (w : Word) (hs : s.fault = none) :
    { s with opcode := w }.cycle = s.cycle := by
  rcases Nat.lt_or_ge s.pc.toNat 4095 with hpc | hpc
  · rw [cycle_of_lt hs hpc]
    exact cycle_of_lt (s := { s with opcode := w }) hs hpc
  · rw [cycle_of_le hs hpc]
    exact cycle_of_le (s := { s with opcode := w }) hs hpc

/-- A cycle that faults changes only the fault and the recorded word.  Further cycles change
nothing, clearing the fault and trying again gives the same state, and skipping the instruction
goes on behind it as if it had not been there. -/
theorem cycle_fault_atomic {s : State} (hs : s.fault = none) (hf : s.cycle.fault ≠ none) :
    s.cycle = { s with fault := s.cycle.fault, opcode := s.nextWord } ∧
      (∀ n, s.cycle.cycles n = s.cycle) ∧
      (s.cycle.resume false).cycle = s.cycle ∧
      s.cycle.resume true = { s with opcode := s.nextWord, pc := s.pc + 2 } := by
  have hcycle := cycle_of_fault hs hf
  have hhalted : s.cycle.isHalted = true := by rwa [isHalted, Option.isSome_iff_ne_none]
  have hresume : ∀ skip, s.cycle.resume skip =
      { s with opcode := s.nextWord, pc := if skip then s.pc + 2 else s.pc } := by
    intro skip
    rw [hcycle, resume, ← hs]
  refine ⟨hcycle, fun n => cycles_of_halted n hhalted, ?_, hresume true⟩
  rw [hresume]
  exact cycle_opcode s.nextWord hs

/-- A machine fresh from power-on whose first word returns from nowhere. -/
theorem cycle_fault_atomic_return :
    let s : State :=
      { State.powerOn ⟨0, 0⟩ {} with memory := Memory.blank.store 0x200 [0x00, 0xEE] }
    s.cycle.fault = some .stackUnderflow ∧ (s.cycle.resume false).cycle = s.cycle :=
  ⟨by decide +kernel, (cycle_fault_atomic rfl (by decide +kernel)).2.2.1⟩

end State

end Chip8
