import Chip8.Proofs.Devices

/-!
# The context of a program

The timers, the keys and the dialect are the context that a program runs in.  Only eight
instructions see any of it, and `State.Overlooks` says when one of them takes no notice of a
revision of the context: what the instruction reads of the context is not revised, and what it
writes there is written before the revision or after it alike.  Such an instruction commutes with
the revision (`perform_revise`), and therefore so does a run of such instructions, whether it
faults or is halted from the start (`cycles_revise`).
-/

namespace Chip8

/-- What a program runs in. -/
structure Context where
  delay : UInt8
  sound : UInt8
  keypad : Keypad
  seenKeys : Keypad
  dialect : Dialect

/-- Whether an operation works on one operand that the dialect selects. -/
def Arithmetic.isShift : Arithmetic → Bool
  | shiftRight | shiftLeft => true
  | copy | or | and | xor | add | subtract | subtractFrom => false

theorem Arithmetic.eval_of_not_shift (a b u v : UInt8) {operation : Arithmetic}
    (h : operation.isShift = false) : operation.eval a b u = operation.eval a b v := by
  cases operation with
  | shiftRight | shiftLeft => cases h
  | _ => rfl

namespace State

def context (s : State) : Context := ⟨s.delay, s.sound, s.keypad, s.seenKeys, s.dialect⟩

/-- The state in another context. -/
def within (s : State) (c : Context) : State :=
  { s with
    delay := c.delay
    sound := c.sound
    keypad := c.keypad
    seenKeys := c.seenKeys
    dialect := c.dialect }

/-- The state with its context revised. -/
def revise (s : State) (f : Context → Context) : State := s.within (f s.context)

/-- A revision of the context makes no difference to an instruction. -/
def Overlooks (s : State) (f : Context → Context) : Instruction → Prop
  | .readDelay _ => (f s.context).delay = s.delay
  | .setDelay x =>
    f { s.context with delay := s.register x } = { f s.context with delay := s.register x }
  | .setSound x =>
    f { s.context with sound := s.register x } = { f s.context with sound := s.register x }
  | .skipIfDown _ | .skipIfUp _ => (f s.context).keypad = s.keypad
  | .awaitKey _ =>
    (f s.context).keypad = s.keypad ∧ (f s.context).seenKeys = s.seenKeys ∧
      f { s.context with seenKeys := s.keypad } = { f s.context with seenKeys := s.keypad }
  | .arithmetic operation x y =>
    operation.isShift = true → (f s.context).dialect = s.dialect ∨ s.register x = s.register y
  | .jumpOffset base =>
    (f s.context).dialect = s.dialect ∨
      s.register base.leadingDigit = s.register firstRegister
  | _ => True

/-- Write the result of an operation. -/
def writeResult (s : State) (x : Register) : UInt8 × Option Bool → State
  | (value, none) => s.setRegister x value
  | (value, some flag) => (s.setRegister x value).setFlag flag

section

variable {s : State} {f : Context → Context}

/-! ## One instruction -/

theorem skipIf_revise (condition : Bool) :
    (s.revise f).skipIf condition = (s.skipIf condition).revise f := by
  cases condition
  · rfl
  · rfl

theorem writeResult_revise (x : Register) (result : UInt8 × Option Bool) :
    (s.revise f).writeResult x result = (s.writeResult x result).revise f := by
  obtain ⟨value, flag⟩ := result
  cases flag
  · rfl
  · rfl

/-- A shift of equal registers gives the same in every dialect. -/
theorem calculate_revise {operation : Arithmetic} {x y : Register}
    (h : s.Overlooks f (.arithmetic operation x y)) :
    (s.revise f).calculate operation x y = (s.calculate operation x y).revise f := by
  have heval : operation.eval (s.register x) (s.register y)
        (if (f s.context).dialect.shiftsSecond then s.register y else s.register x) =
      operation.eval (s.register x) (s.register y)
        (if s.dialect.shiftsSecond then s.register y else s.register x) := by
    cases hshift : operation.isShift with
    | false => exact Arithmetic.eval_of_not_shift _ _ _ _ hshift
    | true =>
      rcases h hshift with hdialect | hregisters
      · rw [hdialect]
      · rw [hregisters, ite_self, ite_self]
  exact (congrArg ((s.revise f).writeResult x) heval).trans (writeResult_revise x _)

theorem awaitKey_revise {x : Register} (h : s.Overlooks f (.awaitKey x)) :
    (s.revise f).awaitKey x = (s.awaitKey x).revise f := by
  obtain ⟨hkeypad, hseen, hmark⟩ := h
  have hpressed : (s.revise f).keypad.firstPressed? (s.revise f).seenKeys =
      s.keypad.firstPressed? s.seenKeys := by
    change (f s.context).keypad.firstPressed? (f s.context).seenKeys = _
    rw [hkeypad, hseen]
  rw [awaitKey, awaitKey, hpressed]
  cases s.keypad.firstPressed? s.seenKeys with
  | none => rfl
  | some k =>
    change (s.setRegister x (UInt8.ofNat k)).within
        { f s.context with seenKeys := (f s.context).keypad } =
      (s.setRegister x (UInt8.ofNat k)).within (f { s.context with seenKeys := s.keypad })
    rw [hmark, hkeypad]

theorem jumpOffset_revise {base : Address} (h : s.Overlooks f (.jumpOffset base)) :
    (s.revise f).perform (.jumpOffset base) = (s.perform (.jumpOffset base)).revise f := by
  have hregister :
      s.register (if (f s.context).dialect.jumpsByDigit then base.leadingDigit
        else firstRegister) =
      s.register (if s.dialect.jumpsByDigit then base.leadingDigit else firstRegister) := by
    rcases h with hdialect | hregisters
    · rw [hdialect]
    · rw [apply_ite s.register, apply_ite s.register, hregisters, ite_self, ite_self]
  exact congrArg (fun b : UInt8 =>
    { s.revise f with pc := UInt16.ofNat base + b.toUInt16 }) hregister

theorem perform_revise {i : Instruction} (h : s.Overlooks f i) :
    (s.revise f).perform i = (s.perform i).revise f := by
  have hsame : (s.revise f).obstacle i = s.obstacle i := obstacle_congr rfl rfl rfl i
  cases hobstacle : s.obstacle i with
  | some fault =>
    rw [hobstacle] at hsame
    rw [perform_of_obstacle hobstacle, perform_of_obstacle hsame]
    rfl
  | none =>
    rw [hobstacle] at hsame
    cases i with
    | ret =>
      rw [obstacle, Fault.when_eq_none] at hobstacle hsame
      rw [perform, leave, if_neg hsame, perform, leave, if_neg hobstacle]
      rfl
    | call target =>
      rw [obstacle, Fault.when_eq_none] at hobstacle hsame
      rw [perform, enter, if_neg hsame, perform, enter, if_neg hobstacle]
      rfl
    | draw x y height =>
      rw [perform_draw hobstacle, perform_draw hsame]
      rfl
    | storeDecimal | storeRegisters | loadRegisters =>
      rw [obstacle, Fault.when_eq_none] at hobstacle hsame
      rw [perform, guarded, if_neg hsame, perform, guarded, if_neg hobstacle]
      rfl
    | arithmetic operation x y => exact calculate_revise h
    | awaitKey x => exact awaitKey_revise h
    | jumpOffset base => exact jumpOffset_revise h
    | skipIfByte | skipUnlessByte | skipIfEqual | skipUnlessEqual => exact skipIf_revise _
    | skipIfDown x | skipIfUp x =>
      have hkeypad : (s.revise f).keypad = s.keypad := h
      rw [perform, hkeypad]
      exact skipIf_revise _
    | readDelay x =>
      have hdelay : (s.revise f).delay = s.delay := h
      rw [perform, hdelay]
      rfl
    | setDelay x =>
      change s.within { f s.context with delay := s.register x } =
        s.within (f { s.context with delay := s.register x })
      rw [h]
    | setSound x =>
      change s.within { f s.context with sound := s.register x } =
        s.within (f { s.context with sound := s.register x })
      rw [h]
    | _ => rfl

/-! ## Cycles -/

theorem cycle_revise (h : ∀ i, s.upcoming? = some i → s.Overlooks f i) :
    (s.revise f).cycle = s.cycle.revise f := by
  cases hs : s.fault with
  | some fault =>
    have hhalted := isHalted_of_fault hs
    rw [cycle_of_halted hhalted]
    exact cycle_of_halted hhalted
  | none =>
    rcases Nat.lt_or_ge s.pc.toNat 4095 with hpc | hpc
    · have hoverlooks := h _ (upcoming?_eq_some_iff.2 ⟨⟨hs, hpc⟩, rfl⟩)
      rw [cycle_of_lt hs hpc]
      refine (cycle_of_lt (s := s.revise f) hs hpc).trans ?_
      -- Fetching changes neither the context nor the registers.
      exact perform_revise (s := { s with opcode := s.nextWord, pc := s.pc + 2 }) hoverlooks
    · rw [cycle_of_le hs hpc]
      exact cycle_of_le (s := s.revise f) hs hpc

/-- A run in which no instruction takes notice of a revision goes on as without it. -/
theorem cycles_revise {n : Nat}
    (h : ∀ k < n, ∀ i, (s.cycles k).upcoming? = some i → (s.cycles k).Overlooks f i) :
    (s.revise f).cycles n = (s.cycles n).revise f := by
  induction n generalizing s with
  | zero => rfl
  | succ n ih =>
    have hfirst : (s.revise f).cycle = s.cycle.revise f := cycle_revise (h 0 (Nat.succ_pos n))
    rw [cycles, cycles, hfirst]
    apply ih
    intro k hk
    exact h (k + 1) (Nat.succ_lt_succ hk)

end

end State

end Chip8
