import Chip8.Proofs.Effect

/-!
# What a cycle changes around the processor

The seen keys, the random stream, the two timers and the record of undefined words are each
written by one instruction, named in `Instruction.usesDevice`; all others leave all of them as they
are (`sameDevices_perform`).  `State.upcoming?` is the instruction that the next cycle performs, so
that a statement about one of these fields after a cycle is a case analysis on it.
-/

namespace Chip8

/-- Whether an instruction writes the seen keys, the random stream, a timer or the record of
undefined words. -/
def Instruction.usesDevice : Instruction → Bool
  | .awaitKey _ | .random _ _ | .setDelay _ | .setSound _ | .undefined _ => true
  | _ => false

namespace State

/-! ## The upcoming instruction -/

/-- The instruction that the next cycle performs; there is none if the machine is halted or its
program counter is past the last word. -/
def upcoming? (s : State) : Option Instruction :=
  if s.fault = none ∧ s.pc.toNat < 4095 then some (.decode s.nextWord) else none

theorem upcoming?_eq_some_iff {s : State} {i : Instruction} :
    s.upcoming? = some i ↔
      (s.fault = none ∧ s.pc.toNat < 4095) ∧ Instruction.decode s.nextWord = i := by
  simp only [upcoming?, Option.ite_none_right_eq_some, Option.some.injEq]

theorem cycle_of_upcoming {s : State} {i : Instruction} (h : s.upcoming? = some i) :
    s.cycle = { s with opcode := s.nextWord, pc := s.pc + 2 }.perform i := by
  obtain ⟨⟨hs, hpc⟩, hi⟩ := upcoming?_eq_some_iff.1 h
  rw [cycle_of_lt hs hpc, hi]

theorem cycle_of_upcoming_none {s : State} (h : s.upcoming? = none) :
    ∃ fault opcode, s.cycle = { s with fault := fault, opcode := opcode } := by
  cases hs : s.fault with
  | some f => exact ⟨s.fault, s.opcode, cycle_of_halted (isHalted_of_fault hs)⟩
  | none =>
    rcases Nat.lt_or_ge s.pc.toNat 4095 with hpc | hpc
    · rw [upcoming?, if_pos ⟨hs, hpc⟩] at h
      cases h
    · exact ⟨_, _, cycle_of_le hs hpc⟩

/-! ## Devices -/

/-- The second state has the seen keys, the random stream, the timers and the record of undefined
words of the first. -/
structure SameDevices (s t : State) : Prop where
  seenKeys : t.seenKeys = s.seenKeys
  random : t.random = s.random
  delay : t.delay = s.delay
  sound : t.sound = s.sound
  undefinedCount : t.undefinedCount = s.undefinedCount
  lastUndefined : t.lastUndefined = s.lastUndefined

theorem sameDevices_perform {s : State} {i : Instruction} (hi : i.usesDevice = false) :
    SameDevices s (s.perform i) := by
  have hwrites : ¬ i.Writes .seenKeys ∧ ¬ i.Writes .random ∧ ¬ i.Writes .delay ∧
      ¬ i.Writes .sound ∧ ¬ i.Writes .undefinedCount ∧ ¬ i.Writes .lastUndefined := by
    cases i with
    | awaitKey | random | setDelay | setSound | undefined => cases hi
    | _ => simp [Instruction.Writes]
  obtain ⟨hseenKeys, hrandom, hdelay, hsound, hcount, hlast⟩ := hwrites
  exact ⟨sameAt_perform hseenKeys, sameAt_perform hrandom, sameAt_perform hdelay,
    sameAt_perform hsound, sameAt_perform hcount, sameAt_perform hlast⟩

theorem sameDevices_cycle_of_none {s : State} (h : s.upcoming? = none) :
    SameDevices s s.cycle := by
  obtain ⟨fault, opcode, hcycle⟩ := cycle_of_upcoming_none h
  rw [hcycle]
  exact ⟨rfl, rfl, rfl, rfl, rfl, rfl⟩

theorem sameDevices_cycle {s : State} {i : Instruction} (h : s.upcoming? = some i)
    (hi : i.usesDevice = false) : SameDevices s s.cycle := by
  have hperform : SameDevices { s with opcode := s.nextWord, pc := s.pc + 2 } s.cycle := by
    rw [cycle_of_upcoming h]
    exact sameDevices_perform hi
  exact ⟨hperform.seenKeys, hperform.random, hperform.delay, hperform.sound,
    hperform.undefinedCount, hperform.lastUndefined⟩

/-! ## Keys -/

theorem keypad_cycle (s : State) : s.cycle.keypad = s.keypad := by
  cases s.effect_cycle with
  | none hsame => exact hsame.keypad
  | call _ _ _ ht | ret _ _ _ ht | store _ ht => rw [ht]

/-- A cycle marks the keys as seen or does nothing to them. -/
theorem seenKeys_cycle (s : State) :
    s.cycle.seenKeys = s.seenKeys ∨ s.cycle.seenKeys = s.keypad := by
  cases hi : s.upcoming? with
  | none => exact .inl (sameDevices_cycle_of_none hi).seenKeys
  | some i =>
    cases i with
    | awaitKey x =>
      rw [cycle_of_upcoming hi]
      simp only [perform, awaitKey]
      split
      · exact .inr rfl
      · exact .inl rfl
    | random | setDelay | setSound | undefined =>
      rw [cycle_of_upcoming hi]
      exact .inl rfl
    | _ => exact .inl (sameDevices_cycle hi rfl).seenKeys

end State

end Chip8
