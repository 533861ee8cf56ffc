import Chip8.Proofs.Batch
import Chip8.Proofs.Effect
import Chip8.Proofs.Reachable

/-!
# The representation of a machine in use

A call stack is well formed when its free slots are clear and its taken ones hold addresses that
a call can leave behind (`CallStack.WellFormed`).  Pushing the address behind an instruction and
popping keep this, and nothing but calls and returns writes the stack, so it holds in all
reachable states.  There the fault is one of the machine's own and the dialect is the one that
the machine was made with (`State.WellFormed`).
-/

namespace Chip8

namespace CallStack

/-! ## Well-formed stacks -/

structure WellFormed (c : CallStack) : Prop where
  pointer_le : c.pointer.toNat ≤ 16
  free : ∀ i, c.pointer.toNat ≤ i → i < 16 → c.slot i = 0
  taken : ∀ i < c.pointer.toNat, 2 ≤ (c.slot i).toNat ∧ (c.slot i).toNat ≤ 0x1000

theorem toNat_pointer_push {c : CallStack} (a : UInt16) (hfree : c.pointer.toNat < 16) :
    (c.push a).pointer.toNat = c.pointer.toNat + 1 := by
  rw [pointer_push, UInt8.toNat_add]
  have hone : (1 : UInt8).toNat = 1 := rfl
  omega

theorem toNat_pointer_pop {c : CallStack} (htaken : 0 < c.pointer.toNat) :
    c.pop.1.pointer.toNat = c.pointer.toNat - 1 := by
  have hle : (1 : UInt8) ≤ c.pointer := UInt8.le_iff_toNat_le.2 htaken
  rw [pointer_pop, UInt8.toNat_sub_of_le _ _ hle]
  rfl

theorem slot_empty (i : Nat) : empty.slot i = 0 := by
  simp [slot, empty]

theorem wellFormed_empty : empty.WellFormed where
  pointer_le := by decide
  free i _ _ := slot_empty i
  taken i hi := absurd hi (Nat.not_lt_zero i)

theorem WellFormed.push {c : CallStack} {a : UInt16} (h : c.WellFormed)
    (hfree : c.pointer.toNat < 16) (ha : 2 ≤ a.toNat ∧ a.toNat ≤ 0x1000) :
    (c.push a).WellFormed := by
  have hpointer := toNat_pointer_push a hfree
  refine ⟨by omega, fun i hi hi16 => ?_, fun i hi => ?_⟩
  · rw [slot_push c a i hi16, if_neg (by omega)]
    exact h.free i (by omega) hi16
  · rw [slot_push c a i (by omega)]
    split
    · exact ha
    · exact h.taken i (by omega)

theorem WellFormed.pop {c : CallStack} (h : c.WellFormed) (htaken : 0 < c.pointer.toNat) :
    c.pop.1.WellFormed := by
  have hpointer := toNat_pointer_pop htaken
  have hle := h.pointer_le
  rw [pointer_pop] at hpointer
  refine ⟨by rw [pointer_pop]; omega, fun i hi hi16 => ?_, fun i hi => ?_⟩
  · rw [slot_pop c i hi16]
    split
    · rfl
    · rw [pointer_pop] at hi
      exact h.free i (by omega) hi16
  · rw [pointer_pop] at hi
    rw [slot_pop c i (by omega), if_neg (by omega)]
    exact h.taken i (by omega)

end CallStack

namespace State

/-! ## Well-formed states -/

/-- What every reachable state of a machine of a dialect is like. -/
structure WellFormed (dialect : Dialect) (s : State) : Prop where
  stack : s.stack.WellFormed
  fault : s.OwnFault
  dialect : s.dialect = dialect

theorem ownFault_of_isOwn {s : State} {f : Fault} (h : s.fault = some f) (hf : f.IsOwn) :
    s.OwnFault := by
  cases f with
  | stackOverflow => exact ⟨1, by decide, h⟩
  | stackUnderflow => exact ⟨2, by decide, h⟩
  | outOfBounds => exact ⟨3, by decide, h⟩
  | unassigned code => exact absurd rfl (hf code)

theorem ownFault_cycle {s : State} (h : s.OwnFault) : s.cycle.OwnFault := by
  cases hs : s.fault with
  | some f => rwa [cycle_of_halted (isHalted_of_fault hs)]
  | none =>
    cases hf : s.cycle.fault with
    | none => exact ownFault_of_none hf
    | some f => exact ownFault_of_isOwn hf (isOwn_of_nextFault ((fault_cycle hs).symm.trans hf))

/-- The address behind an instruction, as a call saves it, does not wrap around. -/
theorem toNat_pc_add_two {s : State} (hpc : s.pc.toNat + 2 < 65536) :
    (s.pc + 2).toNat = s.pc.toNat + 2 := by
  have htwo : (2 : UInt16).toNat = 2 := rfl
  rw [UInt16.toNat_add, htwo]
  omega

theorem wellFormed_stack_cycle {s : State} (h : s.stack.WellFormed) :
    s.cycle.stack.WellFormed := by
  cases s.effect_cycle with
  | none hsame => rwa [hsame.stack]
  | call hs hw hfree ht =>
    have hpc : s.pc.toNat < 4095 := pc_lt_of_group_ne_zero (by rw [hw]; decide)
    have hnext : (s.pc + 2).toNat = s.pc.toNat + 2 := toNat_pc_add_two (by omega)
    rw [ht]
    exact h.push hfree ⟨by omega, by omega⟩
  | ret hs hw htaken ht =>
    rw [ht]
    exact h.pop htaken
  | store bytes ht => rwa [ht]

theorem dialect_cycle (s : State) : s.cycle.dialect = s.dialect := by
  cases s.effect_cycle with
  | none hsame => exact hsame.dialect
  | call _ _ _ ht | ret _ _ _ ht | store _ ht => rw [ht]

theorem Move.wellFormed {dialect : Dialect} {s t : State} (hmove : s.Move t)
    (h : s.WellFormed dialect) : t.WellFormed dialect := by
  cases hmove with
  | cycle =>
    exact ⟨wellFormed_stack_cycle h.stack, ownFault_cycle h.fault, s.dialect_cycle.trans h.dialect⟩
  | load | refreshKeys | tick => exact ⟨h.stack, h.fault, h.dialect⟩
  | resume skip => exact ⟨h.stack, ownFault_of_none rfl, h.dialect⟩

theorem wellFormed_powerOn (key : Random.Key) (dialect : Dialect) :
    (powerOn key dialect).WellFormed dialect :=
  ⟨CallStack.wellFormed_empty, ownFault_of_none rfl, rfl⟩

theorem wellFormed_of_reachable {key : Random.Key} {dialect : Dialect} {s : State}
    (h : Reachable key dialect s) : s.WellFormed dialect :=
  h.induct (wellFormed_powerOn key dialect) fun _ _ hmove => hmove.wellFormed

/-- In every reachable state the stack pointer is at most 16, free slots are clear, taken ones
hold addresses from 2 to 0x1000, the fault code is at most 3, and the dialect is the first one. -/
theorem representation_of_reachable {key : Random.Key} {dialect : Dialect} {s : State}
    (h : Reachable key dialect s) :
    s.stack.pointer.toNat ≤ 16 ∧
      (∀ i, s.stack.pointer.toNat ≤ i → i < 16 → s.stack.slot i = 0) ∧
      (∀ i < s.stack.pointer.toNat,
        2 ≤ (s.stack.slot i).toNat ∧ (s.stack.slot i).toNat ≤ 0x1000) ∧
      (∃ code : UInt8, code ≤ 3 ∧ s.fault = Fault.ofCode code) ∧
      s.dialect.shiftsSecond = dialect.shiftsSecond ∧
      s.dialect.jumpsByDigit = dialect.jumpsByDigit := by
  have hwell := wellFormed_of_reachable h
  refine ⟨hwell.stack.pointer_le, hwell.stack.free, hwell.stack.taken, hwell.fault, ?_, ?_⟩
  · rw [hwell.dialect]
  · rw [hwell.dialect]

/-- A machine that makes two calls, one inside the other, and returns from the inner one. -/
theorem representation_of_reachable_nested :
    let t := (powerOn ⟨0, 0⟩ {}).afterCalls
      [.loadProgram [0x22, 0x02, 0x22, 0x04, 0x00, 0xEE], .run 3 false]
    t.stack.pointer.toNat = 1 ∧
      (∀ i, t.stack.pointer.toNat ≤ i → i < 16 → t.stack.slot i = 0) ∧
      ∀ i < t.stack.pointer.toNat,
        2 ≤ (t.stack.slot i).toNat ∧ (t.stack.slot i).toNat ≤ 0x1000 := by
  intro t
  have hreach : Reachable ⟨0, 0⟩ {} t := Reachable.powerOn.afterCalls rfl
  obtain ⟨-, hfree, htaken, -⟩ := representation_of_reachable hreach
  exact ⟨by decide +kernel, hfree, htaken⟩

end State

end Chip8
