import Chip8.Proofs.Obstacle

/-!
# The footprint of an instruction

`Instruction.Writes` says which parts of the state an instruction may write, besides the program
counter, the fault and the recorded word.  Every other part is as before (`sameAt_perform`), whether
the instruction is carried out or runs into a fault.
-/

namespace Chip8

/-- A part of the state. -/
inductive Part where
  | memory
  | display
  | register (x : Register)
  | index
  | stack
  | delay
  | sound
  | keypad
  | seenKeys
  | random
  | undefinedCount
  | lastUndefined
  | dialect
deriving DecidableEq, Repr

/-- Whether an operation has a flag. -/
def Arithmetic.hasFlag : Arithmetic → Bool
  | copy | or | and | xor => false
  | add | subtract | shiftRight | subtractFrom | shiftLeft => true

theorem Arithmetic.isSome_snd_eval (a b u : UInt8) (operation : Arithmetic) :
    (operation.eval a b u).2.isSome = operation.hasFlag := by
  cases operation <;> rfl

/-- The parts that an instruction may write. -/
def Instruction.Writes (i : Instruction) (part : Part) : Prop :=
  match i with
  | .clear => part = .display
  | .draw _ _ _ => part = .display ∨ part = .register State.flagRegister
  | .ret | .call _ => part = .stack
  | .setByte x _ | .addByte x _ | .readDelay x => part = .register x
  | .arithmetic operation x _ =>
    part = .register x ∨ operation.hasFlag = true ∧ part = .register State.flagRegister
  | .random x _ => part = .random ∨ part = .register x
  | .awaitKey x => part = .seenKeys ∨ part = .register x
  | .setIndex _ | .addIndex _ | .glyph _ => part = .index
  | .setDelay _ => part = .delay
  | .setSound _ => part = .sound
  | .storeDecimal _ | .storeRegisters _ => part = .memory
  | .loadRegisters last => ∃ x ≤ last, part = .register x
  | .undefined _ => part = .undefinedCount ∨ part = .lastUndefined
  | .hostRoutine _ | .jump _ | .jumpOffset _ | .skipIfByte _ _ | .skipUnlessByte _ _
  | .skipIfEqual _ _ | .skipUnlessEqual _ _ | .skipIfDown _ | .skipIfUp _ => False

namespace State

/-- Two states have the same value in a part. -/
def SameAt (s t : State) : Part → Prop
  | .memory => t.memory = s.memory
  | .display => t.display = s.display
  | .register x => t.register x = s.register x
  | .index => t.index = s.index
  | .stack => t.stack = s.stack
  | .delay => t.delay = s.delay
  | .sound => t.sound = s.sound
  | .keypad => t.keypad = s.keypad
  | .seenKeys => t.seenKeys = s.seenKeys
  | .random => t.random = s.random
  | .undefinedCount => t.undefinedCount = s.undefinedCount
  | .lastUndefined => t.lastUndefined = s.lastUndefined
  | .dialect => t.dialect = s.dialect

section

variable {s t u : State} {part : Part}

theorem SameAt.trans (hst : s.SameAt t part) (htu : t.SameAt u part) : s.SameAt u part := by
  cases part <;> exact Eq.trans htu hst

/-! ## Single updates -/

/-- The fields that are no part may change at will. -/
theorem sameAt_control (s : State) (pc : UInt16) (opcode : Word) (fault : Option Fault) :
    s.SameAt { s with pc := pc, opcode := opcode, fault := fault } part := by
  cases part <;> rfl

theorem sameAt_setRegister (s : State) {x : Register} (b : UInt8) (h : part ≠ .register x) :
    s.SameAt (s.setRegister x b) part := by
  cases part with
  | register y =>
    have hne : x ≠ y := by
      rintro rfl
      exact h rfl
    exact (s.register_setRegister x y b).trans (if_neg hne)
  | _ => rfl

theorem sameAt_display (s : State) (d : Display) (h : part ≠ .display) :
    s.SameAt { s with display := d } part := by
  cases part with
  | display => exact absurd rfl h
  | _ => rfl

theorem sameAt_index (s : State) (a : UInt16) (h : part ≠ .index) :
    s.SameAt { s with index := a } part := by
  cases part with
  | index => exact absurd rfl h
  | _ => rfl

theorem sameAt_stack (s : State) (c : CallStack) (pc : UInt16) (h : part ≠ .stack) :
    s.SameAt { s with stack := c, pc := pc } part := by
  cases part with
  | stack => exact absurd rfl h
  | _ => rfl

theorem sameAt_skipIf (s : State) (condition : Bool) : s.SameAt (s.skipIf condition) part := by
  cases condition with
  | false => cases part <;> rfl
  | true => exact s.sameAt_control _ s.opcode s.fault

theorem sameAt_storeAtIndex (s : State) (bytes : List UInt8) (h : part ≠ .memory) :
    s.SameAt (s.storeAtIndex bytes) part := by
  cases part with
  | memory => exact absurd rfl h
  | _ => rfl

theorem sameAt_loadRegisters (s : State) {last : Register} (h : ∀ x ≤ last, part ≠ .register x) :
    s.SameAt (s.loadRegisters last) part := by
  cases part with
  | register y =>
    have hlast : ¬ y ≤ last := fun hle => h y hle rfl
    simp [SameAt, loadRegisters, register, hlast]
  | _ => simp only [SameAt, loadRegisters]

/-! ## Instructions -/

theorem sameAt_calculate (s : State) {operation : Arithmetic} {x y : Register}
    (h : ¬ Instruction.Writes (.arithmetic operation x y) part) :
    s.SameAt (s.calculate operation x y) part := by
  obtain ⟨hx, hflag⟩ := not_or.1 h
  have hsome := operation.isSome_snd_eval (s.register x) (s.register y)
    (if s.dialect.shiftsSecond then s.register y else s.register x)
  simp only [calculate]
  split
  · exact s.sameAt_setRegister _ hx
  · next flag heval =>
    rw [heval] at hsome
    have hne : part ≠ .register flagRegister := fun heq => hflag ⟨hsome.symm, heq⟩
    exact (s.sameAt_setRegister _ hx).trans (sameAt_setRegister _ _ hne)

theorem sameAt_draw (s : State) (sprite : Sprite) (hdisplay : part ≠ .display)
    (hflag : part ≠ .register flagRegister) : s.SameAt (s.draw sprite) part :=
  (s.sameAt_display _ hdisplay).trans (sameAt_setRegister _ _ hflag)

theorem sameAt_awaitKey (s : State) {x : Register} (hkeys : part ≠ .seenKeys)
    (hx : part ≠ .register x) : s.SameAt (s.awaitKey x) part := by
  unfold awaitKey
  split
  · refine SameAt.trans ?_ (sameAt_setRegister _ _ hx)
    cases part with
    | seenKeys => exact absurd rfl hkeys
    | _ => rfl
  · exact s.sameAt_control _ s.opcode s.fault

theorem sameAt_perform {i : Instruction} (h : ¬ i.Writes part) : s.SameAt (s.perform i) part := by
  cases hobstacle : s.obstacle i with
  | some f =>
    -- An obstacle changes nothing but the program counter and the fault.
    rw [perform_of_obstacle hobstacle]
    exact s.sameAt_control _ s.opcode _
  | none =>
    cases i with
    | clear => exact s.sameAt_display _ h
    | draw x y height =>
      obtain ⟨hdisplay, hflag⟩ := not_or.1 h
      rw [perform_draw hobstacle]
      exact s.sameAt_draw _ hdisplay hflag
    | ret =>
      rw [obstacle, Fault.when_eq_none] at hobstacle
      simp only [perform, leave, hobstacle, Bool.false_eq_true, if_false]
      exact s.sameAt_stack _ _ h
    | call target =>
      rw [obstacle, Fault.when_eq_none] at hobstacle
      simp only [perform, enter, hobstacle, Bool.false_eq_true, if_false]
      exact s.sameAt_stack _ _ h
    | setByte x byte | addByte x byte | readDelay x => exact s.sameAt_setRegister _ h
    | arithmetic operation x y => exact s.sameAt_calculate h
    | random x mask =>
      obtain ⟨hrandom, hx⟩ := not_or.1 h
      refine SameAt.trans ?_ (sameAt_setRegister _ _ hx)
      cases part with
      | random => exact absurd rfl hrandom
      | _ => rfl
    | awaitKey x =>
      obtain ⟨hkeys, hx⟩ := not_or.1 h
      exact s.sameAt_awaitKey hkeys hx
    | setIndex | addIndex | glyph => exact s.sameAt_index _ h
    | setDelay x =>
      cases part with
      | delay => exact absurd rfl h
      | _ => rfl
    | setSound x =>
      cases part with
      | sound => exact absurd rfl h
      | _ => rfl
    | storeDecimal | storeRegisters =>
      rw [obstacle, Fault.when_eq_none] at hobstacle
      rw [perform, guarded, if_neg hobstacle]
      exact s.sameAt_storeAtIndex _ h
    | loadRegisters last =>
      rw [obstacle, Fault.when_eq_none] at hobstacle
      rw [perform, guarded, if_neg hobstacle]
      exact s.sameAt_loadRegisters fun x hx heq => h ⟨x, hx, heq⟩
    | undefined word =>
      obtain ⟨hcount, hlast⟩ := not_or.1 h
      cases part with
      | undefinedCount => exact absurd rfl hcount
      | lastUndefined => exact absurd rfl hlast
      | _ => rfl
    | hostRoutine | jump | jumpOffset => cases part <;> rfl
    | skipIfByte | skipUnlessByte | skipIfEqual | skipUnlessEqual | skipIfDown | skipIfUp =>
      exact s.sameAt_skipIf _

end

end State

end Chip8
