import Chip8.Proofs.Bracket
import Chip8.Proofs.Calls

/-!
# The program counter over the integers

Every number that the machine adds to its program counter is small, and a word is fetched only from
below 0xFFF.  So the counter stays at or below 0x10FE, the farthest that a jump with offset goes,
but for the instructions that a host skips, and no sum wraps around.  `State.advance?` forms such a
sum over the integers and fails where it is not a 16-bit number; the cycle that forms all its sums
so never fails (`cycleExact?_eq`), and neither does a history of calls (`pc_exact_of_skips`).
-/

namespace Chip8

theorem Word.ofInt?_eq_some_iff {i : Int} {w : Word} : ofInt? i = some w ↔ (w.toNat : Int) = i := by
  have hw := w.toNat_lt
  unfold ofInt?
  split
  · next hrange =>
    have hlt : i.toNat < UInt16.size := by
      unfold UInt16.size
      omega
    rw [Option.some_inj, ← UInt16.toNat_inj, UInt16.toNat_ofNat_of_lt' hlt]
    omega
  · next hrange =>
    refine ⟨fun h => ?_, fun h => ?_⟩
    · cases h
    · omega

/-- Whether an instruction reads or sets the program counter even where nothing stops it. -/
def Instruction.steers : Instruction → Bool
  | .ret | .jump _ | .call _ | .skipIfByte _ _ | .skipUnlessByte _ _ | .skipIfEqual _ _
  | .skipUnlessEqual _ _ | .jumpOffset _ | .skipIfDown _ | .skipIfUp _ | .awaitKey _ => true
  | _ => false

/-- The number of instructions that a host skips. -/
def skips (cs : List (HostCall StateRequest)) : Nat := cs.countP fun c => c.request.isSkip

theorem CallStack.WellFormed.toNat_snd_pop_le {c : CallStack} (h : c.WellFormed)
    (htaken : 0 < c.pointer.toNat) : c.pop.2.toNat ≤ 0x1000 := by
  have hpointer := toNat_pointer_pop htaken
  rw [pointer_pop] at hpointer
  rw [snd_pop]
  exact (h.taken _ (by omega)).2

namespace State

/-! ## Sums over the integers -/

/-- Add to the program counter over the integers, unless the sum is not a 16-bit number. -/
def advance? (s : State) (d : Int) : Option State := do
  let pc ← Word.ofInt? (s.pc.toNat + d)
  return { s with pc := pc }

def skipIfExact? (s : State) (condition : Bool) : Option State :=
  if condition then s.advance? 2 else some s

def performExact? (s : State) (i : Instruction) : Option State :=
  match s.obstacle i with
  | some f => { s with fault := some f }.advance? (-2)
  | none =>
    match i with
    | .skipIfByte x byte => s.skipIfExact? (s.register x == byte)
    | .skipUnlessByte x byte => s.skipIfExact? (s.register x != byte)
    | .skipIfEqual x y => s.skipIfExact? (s.register x == s.register y)
    | .skipUnlessEqual x y => s.skipIfExact? (s.register x != s.register y)
    | .jumpOffset base =>
      let x := if s.dialect.jumpsByDigit then base.leadingDigit else firstRegister
      { s with pc := UInt16.ofNat base }.advance? (s.register x).toNat
    | .skipIfDown x => s.skipIfExact? (s.keypad.isDown (lowDigit (s.register x)))
    | .skipIfUp x => s.skipIfExact? (!s.keypad.isDown (lowDigit (s.register x)))
    | .awaitKey x =>
      if (s.keypad.firstPressed? s.seenKeys).isNone then s.advance? (-2)
      else some (s.awaitKey x)
    -- The others add nothing to the program counter.
    | i => some (s.perform i)

/-- A cycle that forms the sums for the program counter over the integers. -/
def cycleExact? (s : State) : Option State :=
  if s.isHalted then some s
  else if Memory.size ≤ s.pc.toNat + 1 then
    some { s with fault := some .outOfBounds, opcode := 0 }
  else do
    let fetched ← { s with opcode := s.nextWord }.advance? 2
    fetched.performExact? (.decode s.nextWord)

/-- A call of a host, with the sums of a cycle and of a skip formed over the integers. -/
def afterExact? (s : State) (c : HostCall StateRequest) : Option State :=
  match c.request with
  | .cycle => s.cycleExact?
  | .resume true => { s with fault := none }.advance? 2
  | r => some (s.after c.host c.console r)

section

variable {s : State} {i : Instruction}

theorem advance?_eq {d : Int} {pc : UInt16} (h : (pc.toNat : Int) = s.pc.toNat + d) :
    s.advance? d = some { s with pc := pc } := by
  rw [advance?, Word.ofInt?_eq_some_iff.2 h]
  rfl

theorem advance?_two (h : s.pc.toNat + 2 < 65536) :
    s.advance? 2 = some { s with pc := s.pc + 2 } := by
  apply advance?_eq
  rw [toNat_pc_add_two h]
  rfl

theorem advance?_neg_two (h : 2 ≤ s.pc.toNat) :
    s.advance? (-2) = some { s with pc := s.pc - 2 } := by
  apply advance?_eq
  have hle : (2 : UInt16) ≤ s.pc := UInt16.le_iff_toNat_le.2 h
  have htwo : (2 : UInt16).toNat = 2 := rfl
  rw [UInt16.toNat_sub_of_le _ _ hle, htwo]
  omega

theorem toNat_jumpOffset (base : Address) (b : UInt8) :
    (UInt16.ofNat base + b.toUInt16).toNat = base.val + b.toNat := by
  have hbase := base.isLt
  have hb := b.toNat_lt
  rw [UInt16.toNat_add, UInt8.toNat_toUInt16,
    UInt16.toNat_ofNat_of_lt' (by unfold UInt16.size; omega)]
  omega

theorem toNat_address (a : Address) : (UInt16.ofNat a).toNat = a.val :=
  UInt16.toNat_ofNat_of_lt' (Nat.lt_trans a.isLt (by decide))

/-! ## One instruction -/

theorem skipIfExact?_eq (h : s.pc.toNat + 2 < 65536) (condition : Bool) :
    s.skipIfExact? condition = some (s.skipIf condition) := by
  cases condition with
  | false => rfl
  | true => exact advance?_two h

/-- Behind an instruction in memory no sum wraps around. -/
theorem performExact?_eq (hlow : 2 ≤ s.pc.toNat) (hhigh : s.pc.toNat ≤ 0x1000) :
    s.performExact? i = some (s.perform i) := by
  have hskip : s.pc.toNat + 2 < 65536 := by omega
  unfold performExact?
  split
  · next f hobstacle =>
    rw [perform_of_obstacle hobstacle]
    exact advance?_neg_two hlow
  · cases i with
    | skipIfByte | skipUnlessByte | skipIfEqual | skipUnlessEqual | skipIfDown | skipIfUp =>
      exact skipIfExact?_eq hskip _
    | jumpOffset base =>
      apply advance?_eq
      rw [toNat_jumpOffset, toNat_address]
      rfl
    | awaitKey x =>
      simp only [perform, awaitKey]
      cases s.keypad.firstPressed? s.seenKeys with
      | none => exact advance?_neg_two hlow
      | some k => rfl
    | _ => rfl

/-- What nothing stops and does not steer commutes with every change of the program counter. -/
theorem perform_withPc (hi : i.steers = false) (h : s.obstacle i = none) (pc : UInt16) :
    { s with pc := pc }.perform i = { s.perform i with pc := pc } := by
  have hmoved : { s with pc := pc }.obstacle i = none := (obstacle_congr rfl rfl rfl i).trans h
  cases i with
  | draw =>
    rw [perform_draw h, perform_draw hmoved]
    rfl
  | storeDecimal | storeRegisters | loadRegisters =>
    rw [obstacle, Fault.when_eq_none] at h hmoved
    rw [perform, guarded, if_neg hmoved, perform, guarded, if_neg h]
    rfl
  | arithmetic operation x y =>
    cases operation with
    | _ => rfl
  | ret | jump | call | skipIfByte | skipUnlessByte | skipIfEqual | skipUnlessEqual | jumpOffset
  | skipIfDown | skipIfUp | awaitKey => cases hi
  | _ => rfl

theorem pc_perform (hi : i.steers = false) (h : s.obstacle i = none) : (s.perform i).pc = s.pc := by
  have hperform : s.perform i = { s.perform i with pc := s.pc } := perform_withPc hi h s.pc
  rw [hperform]

/-- Where an instruction can leave the program counter. -/
inductive Destination (s : State) : UInt16 → Prop
  | stay : Destination s s.pc
  | back : Destination s (s.pc - 2)
  | skip : Destination s (s.pc + 2)
  | jump (target : Address) : Destination s (UInt16.ofNat target)
  | jumpOffset (base : Address) (offset : UInt8) :
      Destination s (UInt16.ofNat base + offset.toUInt16)
  | ret (htaken : 0 < s.stack.pointer.toNat) : Destination s s.stack.pop.2

theorem destination_skipIf (s : State) (condition : Bool) :
    s.Destination (s.skipIf condition).pc := by
  cases condition with
  | false => exact .stay
  | true => exact .skip

theorem destination_perform (s : State) (i : Instruction) : s.Destination (s.perform i).pc := by
  cases hobstacle : s.obstacle i with
  | some f =>
    rw [perform_of_obstacle hobstacle]
    exact .back
  | none =>
    cases i with
    | ret =>
      rw [obstacle, Fault.when_eq_none, Bool.not_eq_true] at hobstacle
      rw [perform, leave, hobstacle, if_neg Bool.false_ne_true]
      exact .ret (CallStack.isEmpty_eq_false_iff.1 hobstacle)
    | call target =>
      rw [obstacle, Fault.when_eq_none, Bool.not_eq_true] at hobstacle
      rw [perform, enter, hobstacle, if_neg Bool.false_ne_true]
      exact .jump target
    | jump target => exact .jump target
    | jumpOffset base => exact .jumpOffset base _
    | skipIfByte | skipUnlessByte | skipIfEqual | skipUnlessEqual | skipIfDown | skipIfUp =>
      exact s.destination_skipIf _
    | awaitKey x =>
      rw [perform, awaitKey]
      split
      · exact .stay
      · exact .back
    | _ =>
      rw [pc_perform rfl hobstacle]
      exact .stay

/-- From behind an instruction in memory, a jump with offset goes the farthest. -/
theorem Destination.le {pc : UInt16} (h : s.Destination pc) (hlow : 2 ≤ s.pc.toNat)
    (hhigh : s.pc.toNat ≤ 0x1000) (hstack : s.stack.WellFormed) : pc.toNat ≤ 0x10FE := by
  cases h with
  | stay => omega
  | back =>
    have hback : (s.pc - 2).toNat = s.pc.toNat - 2 := UInt16.toNat_sub_of_le _ _ hlow
    omega
  | skip =>
    have hskip : (s.pc + 2).toNat = (s.pc.toNat + 2) % 65536 := UInt16.toNat_add _ _
    omega
  | jump target =>
    rw [toNat_address]
    omega
  | jumpOffset base offset =>
    have hoffset := offset.toNat_lt
    rw [toNat_jumpOffset]
    omega
  | ret htaken =>
    have hpop := hstack.toNat_snd_pop_le htaken
    omega

/-! ## One cycle -/

theorem cycleExact?_of_halted (h : s.isHalted = true) : s.cycleExact? = some s := if_pos h

theorem cycleExact?_of_lt (hs : s.fault = none) (hpc : s.pc.toNat < 4095) :
    s.cycleExact? =
      { s with opcode := s.nextWord, pc := s.pc + 2 }.performExact? (.decode s.nextWord) := by
  have hfetch : { s with opcode := s.nextWord }.advance? 2 =
      some { s with opcode := s.nextWord, pc := s.pc + 2 } := by
    apply advance?_two
    change s.pc.toNat + 2 < 65536
    omega
  have hfits : ¬ Memory.size ≤ s.pc.toNat + 1 := Nat.not_le.2 (Nat.succ_lt_succ hpc)
  rw [cycleExact?, isHalted_of_none hs, if_neg Bool.false_ne_true, if_neg hfits, hfetch]
  rfl

theorem cycleExact?_of_le (hs : s.fault = none) (hpc : 4095 ≤ s.pc.toNat) :
    s.cycleExact? = some s.cycle := by
  have hout : Memory.size ≤ s.pc.toNat + 1 := Nat.succ_le_succ hpc
  rw [cycleExact?, isHalted_of_none hs, if_neg Bool.false_ne_true, if_pos hout, cycle_of_le hs hpc,
    nextWord, if_neg (Nat.not_lt.2 hpc)]

theorem pc_fetched (hpc : s.pc.toNat < 4095) :
    2 ≤ (s.pc + 2).toNat ∧ (s.pc + 2).toNat ≤ 0x1000 := by
  have hnext : (s.pc + 2).toNat = s.pc.toNat + 2 := toNat_pc_add_two (by omega)
  omega

/-- A word is fetched only from memory, so no sum of any cycle wraps around. -/
theorem cycleExact?_eq (s : State) : s.cycleExact? = some s.cycle := by
  cases hs : s.fault with
  | some f =>
    have hhalted := isHalted_of_fault hs
    rw [cycleExact?_of_halted hhalted, cycle_of_halted hhalted]
  | none =>
    rcases Nat.lt_or_ge s.pc.toNat 4095 with hpc | hpc
    · obtain ⟨hlow, hhigh⟩ := pc_fetched hpc
      rw [cycleExact?_of_lt hs hpc, cycle_of_lt hs hpc]
      exact performExact?_eq hlow hhigh
    · exact cycleExact?_of_le hs hpc

/-- The program counter is at most a bound, and the stack is one that calls can leave behind. -/
structure Bounded (bound : Nat) (s : State) : Prop where
  stack : s.stack.WellFormed
  pc_le : s.pc.toNat ≤ bound

variable {bound : Nat}

theorem Bounded.cycle (h : s.Bounded bound) (hbound : 0x10FE ≤ bound) : s.cycle.Bounded bound := by
  refine ⟨wellFormed_stack_cycle h.stack, ?_⟩
  cases hs : s.fault with
  | some f =>
    rw [cycle_of_halted (isHalted_of_fault hs)]
    exact h.pc_le
  | none =>
    rcases Nat.lt_or_ge s.pc.toNat 4095 with hpc | hpc
    · obtain ⟨hlow, hhigh⟩ := pc_fetched hpc
      let t : State := { s with opcode := s.nextWord, pc := s.pc + 2 }
      have hdestination := t.destination_perform (.decode s.nextWord)
      rw [cycle_of_lt hs hpc]
      exact Nat.le_trans (hdestination.le hlow hhigh h.stack) hbound
    · rw [cycle_of_le hs hpc]
      exact h.pc_le

/-! ## Histories -/

theorem Bounded.after (h : s.Bounded bound) (hbound : 0x10FE ≤ bound) (host : Host)
    (console : Console) {r : StateRequest} (hr : r.isElementary = true) :
    (s.after host console r).Bounded (bound + if r.isSkip then 2 else 0) := by
  have hpc := h.pc_le
  by_cases hcycle : r = .cycle
  · subst hcycle
    exact h.cycle hbound
  · obtain ⟨memory, delay, sound, fault, heq⟩ := s.after_of_ne_cycle host console hr hcycle
    refine ⟨?_, ?_⟩
    · rw [s.stack_after host console hr hcycle]
      exact h.stack
    · rw [heq]
      cases r.isSkip with
      | false => exact hpc
      | true =>
        change (s.pc + 2).toNat ≤ bound + 2
        rw [UInt16.toNat_add]
        exact Nat.le_trans (Nat.mod_le _ _) (Nat.add_le_add_right hpc 2)

/-- The sum of a skip is the only one that can wrap around. -/
theorem afterExact?_eq {c : HostCall StateRequest}
    (h : c.request.isSkip = true → s.pc.toNat + 2 < 65536) :
    s.afterExact? c = some (s.after c.host c.console c.request) := by
  obtain ⟨r, host, console⟩ := c
  cases r with
  | cycle => exact s.cycleExact?_eq
  | resume skip =>
    cases skip with
    | false => rfl
    | true => exact advance?_two (s := { s with fault := none }) (h rfl)
  | _ => rfl

theorem Bounded.afterAll (h : s.Bounded bound) (hbound : 0x10FE ≤ bound)
    {cs : List (HostCall StateRequest)} (hcs : ∀ c ∈ cs, c.request.isElementary = true)
    (hfits : bound + 2 * skips cs < 65536) :
    (s.afterAll cs).Bounded (bound + 2 * skips cs) ∧
      cs.foldlM afterExact? s = some (s.afterAll cs) := by
  induction cs generalizing s bound with
  | nil => exact ⟨h, rfl⟩
  | cons c cs ih =>
    obtain ⟨hc, hlater⟩ := List.forall_mem_cons.1 hcs
    have hpc := h.pc_le
    have hafter := h.after hbound c.host c.console hc
    have hskips : bound + 2 * skips (c :: cs) =
        (bound + if c.request.isSkip then 2 else 0) + 2 * skips cs := by
      rw [skips, List.countP_cons, skips]
      split
      · omega
      · omega
    rw [hskips] at hfits ⊢
    -- The bound rises with every skip, so it leaves room for the sum of the first call.
    rw [List.foldlM_cons, afterExact?_eq]
    · exact ih hafter (Nat.le_add_right_of_le hbound) hlater hfits
    · intro hskip
      rw [hskip, if_pos rfl] at hfits
      omega

theorem bounded_powerOn (key : Random.Key) (dialect : Dialect) :
    (powerOn key dialect).Bounded 0x10FE := by
  refine ⟨CallStack.wellFormed_empty, ?_⟩
  change 0x200 ≤ 0x10FE
  decide

end

/-- After any calls of which at most `k` skip an instruction, the program counter is at most
`0x10FE + 2 * k`.  All its sums on the way are those over the integers, and so are the sums of a
cycle from there. -/
theorem pc_exact_of_skips (key : Random.Key) (dialect : Dialect)
    {cs : List (HostCall StateRequest)} (hcs : ∀ c ∈ cs, c.request.isElementary = true) {k : Nat}
    (hk : skips cs ≤ k) (hfits : 0x10FE + 2 * k < 65536) :
    ((powerOn key dialect).afterAll cs).pc.toNat ≤ 0x10FE + 2 * k ∧
      cs.foldlM afterExact? (powerOn key dialect) = some ((powerOn key dialect).afterAll cs) ∧
      ((powerOn key dialect).afterAll cs).cycleExact? =
        some ((powerOn key dialect).afterAll cs).cycle := by
  obtain ⟨hbounded, hexact⟩ :=
    (bounded_powerOn key dialect).afterAll (Nat.le_refl _) hcs (by omega)
  have hpc := hbounded.pc_le
  exact ⟨by omega, hexact, cycleExact?_eq _⟩

/-- The longest jump with offset leads out of memory, and the host skips what cannot be fetched. -/
theorem pc_exact_of_skips_jump :
    let cs : List (HostCall StateRequest) :=
      [⟨.loadProgram [0x60, 0xFF, 0xBF, 0xFF], .empty, .forMachine⟩,
        ⟨.cycle, .empty, .forMachine⟩, ⟨.cycle, .empty, .forMachine⟩,
        ⟨.cycle, .empty, .forMachine⟩, ⟨.resume true, .empty, .forMachine⟩]
    let s := powerOn ⟨0, 0⟩ {}
    (∀ c ∈ cs, c.request.isElementary = true) ∧ skips cs ≤ 1 ∧
      (s.afterAll cs).pc.toNat = 0x10FE + 2 * 1 ∧
      (s.afterAll cs).pc.toNat ≤ 0x10FE + 2 * 1 ∧
      cs.foldlM afterExact? s = some (s.afterAll cs) ∧
      (s.afterAll cs).cycleExact? = some (s.afterAll cs).cycle := by
  intro cs s
  have hcs : ∀ c ∈ cs, c.request.isElementary = true := by decide
  have hskips : skips cs ≤ 1 := by decide
  have hpc : (s.afterAll cs).pc.toNat = 0x10FE + 2 * 1 := by decide +kernel
  exact ⟨hcs, hskips, hpc, pc_exact_of_skips ⟨0, 0⟩ {} hcs hskips (by decide)⟩

end State

end Chip8
