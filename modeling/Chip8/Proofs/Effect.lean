import Chip8.Proofs.Diagnosis
import Chip8.Proofs.Footprint

/-!
# What a cycle changes

Memory, the call stack, the keypad and the dialect are out of reach of most instructions
(`sameStores_perform`).  A call and a return change the stack, the two stores change memory, and a
cycle that performs none of these leaves all four as they are (`effect_cycle`).
-/

namespace Chip8

namespace CallStack

theorem isFull_eq_false_iff {c : CallStack} : c.isFull = false ↔ c.pointer.toNat < 16 := by
  rw [isFull, decide_eq_false_iff_not, UInt8.le_iff_toNat_le, Nat.not_le]
  rfl

theorem isEmpty_eq_false_iff {c : CallStack} : c.isEmpty = false ↔ 0 < c.pointer.toNat := by
  rw [isEmpty, beq_eq_false_iff_ne, Nat.pos_iff_ne_zero, ne_eq, ← UInt8.toNat_inj]
  rfl

end CallStack

namespace Instruction

/-! ## The words of calls and returns -/

theorem decode_of_group_call {w : Word} (hw : Word.group w = 0x2) :
    decode w = .call (Word.nnn w) := by
  simp only [decode, hw]

theorem decode_of_group_devices {w : Word} (hw : Word.group w = 0xF) :
    decode w = ofDevices w := by
  simp only [decode, hw]

theorem decode_return : decode 0x00EE = .ret := by
  decide

theorem group_of_decode_eq_call {w : Word} {target : Address} (h : decode w = .call target) :
    Word.group w = 0x2 := by
  -- On a full stack calls are the words that overflow.
  let full : State :=
    { State.powerOn ⟨0, 0⟩ {} with stack := { CallStack.empty with pointer := 16 } }
  have hobstacle : full.obstacle (decode w) = some .stackOverflow := by
    rw [h]
    rfl
  exact ((State.obstacle_decode_iff full w _).1 hobstacle).1

theorem eq_of_decode_eq_ret {w : Word} (h : decode w = .ret) : w = 0x00EE := by
  have hobstacle : (State.powerOn ⟨0, 0⟩ {}).obstacle (decode w) = some .stackUnderflow := by
    rw [h]
    rfl
  exact ((State.obstacle_decode_iff _ w _).1 hobstacle).1

/-- Whether an instruction leaves memory and the call stack alone whatever the state. -/
def isLocal : Instruction → Bool
  | .call _ | .ret | .storeDecimal _ | .storeRegisters _ => false
  | _ => true

end Instruction

namespace State

/-! ## Local instructions -/

/-- The second state has the memory, the call stack, the keypad and the dialect of the first. -/
structure SameStores (s t : State) : Prop where
  memory : t.memory = s.memory
  stack : t.stack = s.stack
  keypad : t.keypad = s.keypad
  dialect : t.dialect = s.dialect

theorem sameStores_perform {s : State} {i : Instruction} (hi : i.isLocal = true) :
    SameStores s (s.perform i) := by
  have hwrites : ¬ i.Writes .memory ∧ ¬ i.Writes .stack ∧ ¬ i.Writes .keypad ∧
      ¬ i.Writes .dialect := by
    cases i with
    | call | ret | storeDecimal | storeRegisters => cases hi
    | _ => simp [Instruction.Writes]
  obtain ⟨hmemory, hstack, hkeypad, hdialect⟩ := hwrites
  exact ⟨sameAt_perform hmemory, sameAt_perform hstack, sameAt_perform hkeypad,
    sameAt_perform hdialect⟩

/-! ## Cycles -/

theorem pc_lt_of_nextWord_ne_zero {s : State} (h : s.nextWord ≠ 0) : s.pc.toNat < 4095 := by
  by_contra hpc
  exact h (if_neg hpc)

theorem pc_lt_of_group_ne_zero {s : State} (h : Word.group s.nextWord ≠ 0) :
    s.pc.toNat < 4095 := by
  apply pc_lt_of_nextWord_ne_zero
  intro hzero
  rw [hzero] at h
  exact h rfl

theorem cycle_call {s : State} (hs : s.fault = none) (hw : Word.group s.nextWord = 0x2)
    (hfree : s.stack.pointer.toNat < 16) :
    s.cycle = { s with
      opcode := s.nextWord
      stack := s.stack.push (s.pc + 2)
      pc := UInt16.ofNat (Word.nnn s.nextWord) } := by
  have hpc : s.pc.toNat < 4095 := pc_lt_of_group_ne_zero (by rw [hw]; decide)
  rw [cycle_of_lt hs hpc, Instruction.decode_of_group_call hw]
  simp only [perform, enter, CallStack.isFull_eq_false_iff.2 hfree, Bool.false_eq_true, if_false]

theorem cycle_return {s : State} (hs : s.fault = none) (hw : s.nextWord = 0x00EE)
    (htaken : 0 < s.stack.pointer.toNat) :
    s.cycle = { s with
      opcode := s.nextWord
      stack := s.stack.pop.1
      pc := s.stack.pop.2 } := by
  have hpc : s.pc.toNat < 4095 := pc_lt_of_nextWord_ne_zero (by rw [hw]; decide)
  rw [cycle_of_lt hs hpc, hw, Instruction.decode_return]
  simp only [perform, leave, CallStack.isEmpty_eq_false_iff.2 htaken, Bool.false_eq_true, if_false]

/-- Both stores are guarded, and write bytes from the index on. -/
theorem cycle_store {s : State} (hs : s.fault = none) (hpc : s.pc.toNat < 4095)
    {lastOffset : Nat} {bytes : State → List UInt8}
    (hi : ∀ t : State, t.perform (.decode s.nextWord) =
      t.guarded lastOffset fun u => u.storeAtIndex (bytes u)) :
    s.cycle =
      if Memory.size ≤ s.index.toNat + lastOffset then
        { s with opcode := s.nextWord, pc := s.pc + 2 }.halt .outOfBounds
      else { s with
        opcode := s.nextWord
        pc := s.pc + 2
        memory := s.memory.storeOutsideFont s.index.toNat
          (bytes { s with opcode := s.nextWord, pc := s.pc + 2 }) } := by
  rw [cycle_of_lt hs hpc, hi, guarded]
  rfl

/-- What a cycle does to memory, the call stack, the keypad and the dialect. -/
inductive Effect (s t : State) : Prop
  | none (h : SameStores s t)
  | call (hs : s.fault = .none) (hw : Word.group s.nextWord = 0x2)
      (hfree : s.stack.pointer.toNat < 16)
      (ht : t = { s with
        opcode := s.nextWord
        stack := s.stack.push (s.pc + 2)
        pc := UInt16.ofNat (Word.nnn s.nextWord) })
  | ret (hs : s.fault = .none) (hw : s.nextWord = 0x00EE) (htaken : 0 < s.stack.pointer.toNat)
      (ht : t = { s with
        opcode := s.nextWord
        stack := s.stack.pop.1
        pc := s.stack.pop.2 })
  | store (bytes : List UInt8)
      (ht : t = { s with
        opcode := s.nextWord
        pc := s.pc + 2
        memory := s.memory.storeOutsideFont s.index.toNat bytes })

theorem effect_store {s : State} (hs : s.fault = none) (hpc : s.pc.toNat < 4095)
    {lastOffset : Nat} {bytes : State → List UInt8}
    (hi : ∀ t : State, t.perform (.decode s.nextWord) =
      t.guarded lastOffset fun u => u.storeAtIndex (bytes u)) :
    Effect s s.cycle := by
  rw [cycle_store hs hpc hi]
  split
  · exact .none ⟨rfl, rfl, rfl, rfl⟩
  · exact .store _ rfl

theorem effect_cycle (s : State) : Effect s s.cycle := by
  cases hs : s.fault with
  | some f =>
    rw [cycle_of_halted (isHalted_of_fault hs)]
    exact .none ⟨rfl, rfl, rfl, rfl⟩
  | none =>
    rcases Nat.lt_or_ge s.pc.toNat 4095 with hpc | hpc
    · cases hi : Instruction.decode s.nextWord with
      | call target =>
        have hw := Instruction.group_of_decode_eq_call hi
        rcases Nat.lt_or_ge s.stack.pointer.toNat 16 with hfree | hfull
        · exact .call hs hw hfree (cycle_call hs hw hfree)
        · have hfault : s.nextFault = some .stackOverflow := by
            rw [nextFault, if_pos hpc, obstacle_decode_iff]
            exact ⟨hw, hfull⟩
          rw [cycle_of_nextFault hs hfault]
          exact .none ⟨rfl, rfl, rfl, rfl⟩
      | ret =>
        have hw := Instruction.eq_of_decode_eq_ret hi
        rcases Nat.eq_zero_or_pos s.stack.pointer.toNat with hempty | htaken
        · have hfault : s.nextFault = some .stackUnderflow := by
            rw [nextFault, if_pos hpc, obstacle_decode_iff]
            exact ⟨hw, UInt8.toNat_inj.1 hempty⟩
          rw [cycle_of_nextFault hs hfault]
          exact .none ⟨rfl, rfl, rfl, rfl⟩
        · exact .ret hs hw htaken (cycle_return hs hw htaken)
      | storeDecimal x =>
        exact effect_store hs hpc fun t => by rw [hi, perform]
      | storeRegisters last =>
        exact effect_store hs hpc fun t => by rw [hi, perform]
      | _ =>
        have hlocal : SameStores { s with opcode := s.nextWord, pc := s.pc + 2 } s.cycle := by
          rw [cycle_of_lt hs hpc]
          exact sameStores_perform (by rw [hi]; rfl)
        exact .none ⟨hlocal.memory, hlocal.stack, hlocal.keypad, hlocal.dialect⟩
    · rw [cycle_of_le hs hpc]
      exact .none ⟨rfl, rfl, rfl, rfl⟩

end State

end Chip8
