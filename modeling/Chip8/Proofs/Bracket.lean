import Chip8.Proofs.Representation

/-!
# Calls and returns are bracketed

From a call on, until the stack is back at its depth, the stack extends the one that the call found
by the address behind the call (`CallStack.Extends`).  Whatever happens above that address, further
calls, returns, faults and interventions of the host, neither it nor the slots below it are
written.  So the return that takes the stack back to the depth of the call takes the machine back
behind the call, with the very stack that the call found (`call_return_bracketed`).
-/

namespace Chip8

namespace CallStack

/-! ## Stacks that extend a stack -/

theorem ext_slot {c e : CallStack} (hpointer : c.pointer = e.pointer)
    (h : ∀ i < 16, c.slot i = e.slot i) : c = e := by
  refine CallStack.ext (Vector.ext fun i hi => ?_) hpointer
  have hmin : min i 15 = i := Nat.min_eq_left (Nat.le_of_lt_succ hi)
  simpa only [slot, hmin] using h i hi

/-- A stack with the taken slots of another one, then an address, and maybe more above it. -/
structure Extends (base : CallStack) (a : UInt16) (c : CallStack) : Prop where
  deeper : base.pointer.toNat < c.pointer.toNat
  below : ∀ i < base.pointer.toNat, c.slot i = base.slot i
  saved : c.slot base.pointer.toNat = a

variable {base c : CallStack} {a : UInt16}

theorem extends_push (a : UInt16) (hfree : base.pointer.toNat < 16) :
    Extends base a (base.push a) := by
  have hpointer := toNat_pointer_push a hfree
  refine ⟨by omega, fun i hi => ?_, ?_⟩
  · rw [slot_push base a i (by omega), if_neg (by omega)]
  · rw [slot_push base a _ hfree, if_pos rfl]

theorem Extends.push (h : Extends base a c) (b : UInt16) (hfree : c.pointer.toNat < 16) :
    Extends base a (c.push b) := by
  have hpointer := toNat_pointer_push b hfree
  have hdeeper := h.deeper
  refine ⟨by omega, fun i hi => ?_, ?_⟩
  · rw [slot_push c b i (by omega), if_neg (by omega)]
    exact h.below i hi
  · rw [slot_push c b _ (by omega), if_neg (by omega)]
    exact h.saved

theorem Extends.pop (h : Extends base a c) (hle : c.pointer.toNat ≤ 16)
    (haway : c.pop.1.pointer ≠ base.pointer) : Extends base a c.pop.1 := by
  have hdeeper := h.deeper
  have hpointer := toNat_pointer_pop (c := c) (by omega)
  have hne : c.pop.1.pointer.toNat ≠ base.pointer.toNat := fun heq => haway (UInt8.toNat_inj.1 heq)
  rw [pointer_pop] at hpointer hne
  refine ⟨by rw [pointer_pop]; omega, fun i hi => ?_, ?_⟩
  · rw [slot_pop c i (by omega), if_neg (by omega)]
    exact h.below i hi
  · rw [slot_pop c _ (by omega), if_neg (by omega)]
    exact h.saved

/-- The pop that takes a stack back to the depth of one that it extends gives that stack back. -/
theorem Extends.pop_eq (h : Extends base a c) (hbase : base.WellFormed) (hc : c.WellFormed)
    (hback : c.pop.1.pointer = base.pointer) : c.pop = (base, a) := by
  have hdeeper := h.deeper
  have hpointer := toNat_pointer_pop (c := c) (by omega)
  rw [hback] at hpointer
  have htop : (c.pointer - 1).toNat = base.pointer.toNat := congrArg UInt8.toNat hback
  refine Prod.ext (ext_slot hback fun i hi => ?_) ?_
  · rw [slot_pop c i hi, htop]
    split
    -- The slot of the address is cleared, and it was free before the call.
    · next heq => rw [hbase.free i (by omega) hi]
    · next hne =>
      rcases Nat.lt_or_ge i base.pointer.toNat with hlt | hge
      · exact h.below i hlt
      · rw [hc.free i (by omega) hi, hbase.free i hge hi]
  · rw [snd_pop, htop]
    exact h.saved

end CallStack

namespace State

/-! ## From a call to its return -/

theorem HostMove.stack {s t : State} (h : s.HostMove t) : t.stack = s.stack := by
  cases h with
  | load | refreshKeys | tick | resume => rfl

theorem stack_after (s : State) (host : Host) (console : Console) {r : StateRequest}
    (hr : r.isElementary = true) (hcycle : r ≠ .cycle) :
    (s.after host console r).stack = s.stack := by
  rcases (Relation.reflGen_iff _ _ _).1 (s.hostMove_after host console hr hcycle) with heq | hmove
  · rw [heq]
  · exact hmove.stack

/-- The states that elementary calls lead to as long as the stack pointer is not back at a depth. -/
inductive AwayFrom (depth : UInt8) (s : State) : State → Prop
  | start : AwayFrom depth s s
  | call {t : State} (h : AwayFrom depth s t) (host : Host) (console : Console)
      {r : StateRequest} (hr : r.isElementary = true)
      (hdepth : (t.after host console r).stack.pointer ≠ depth) :
      AwayFrom depth s (t.after host console r)

theorem AwayFrom.reachable {key : Random.Key} {dialect : Dialect} {depth : UInt8} {s t : State}
    (h : AwayFrom depth s t) (hs : Reachable key dialect s) : Reachable key dialect t := by
  induction h with
  | start => exact hs
  | call _ host console hr _ ih =>
    exact ih.after host console (StateRequest.isHostCall_of_isElementary hr)

/-- A cycle on a stack that extends another one gives one that does so, or it returns to the depth
of the other one. -/
theorem extends_cycle {base : CallStack} {a : UInt16} {t : State} (h : base.Extends a t.stack)
    (hle : t.stack.pointer.toNat ≤ 16) :
    base.Extends a t.cycle.stack ∨
      t.fault = none ∧ t.nextWord = 0x00EE ∧ t.cycle.stack.pointer = base.pointer ∧
        t.cycle.stack = t.stack.pop.1 ∧ t.cycle.pc = t.stack.pop.2 := by
  cases t.effect_cycle with
  | none hsame => exact .inl (by rwa [hsame.stack])
  | call _ _ hfree ht =>
    rw [ht]
    exact .inl (h.push _ hfree)
  | ret hs hw htaken ht =>
    rw [ht]
    by_cases hback : t.stack.pop.1.pointer = base.pointer
    · exact .inr ⟨hs, hw, hback, rfl, rfl⟩
    · exact .inl (h.pop hle hback)
  | store bytes ht => exact .inl (by rwa [ht])

theorem AwayFrom.extends_stack {key : Random.Key} {dialect : Dialect} {base : CallStack}
    {a : UInt16} {s t : State} (h : AwayFrom base.pointer s t) (hreach : Reachable key dialect s)
    (hs : base.Extends a s.stack) : base.Extends a t.stack := by
  induction h with
  | start => exact hs
  | @call t h host console r hr hdepth ih =>
    by_cases hcycle : r = .cycle
    · subst hcycle
      have hle := (wellFormed_of_reachable (h.reachable hreach)).stack.pointer_le
      -- A return to the depth would end the part of the run that `AwayFrom` describes.
      rcases extends_cycle ih hle with hext | ⟨-, -, hback, -⟩
      · exact hext
      · exact absurd hback hdepth
    · rwa [stack_after t host console hr hcycle]

/-- From a call on, until the stack is back at its depth, the slots below the call are as they were
and the next one holds the address behind the call.  Only a return takes the stack back, and then
the machine is behind the call and the stack is the one before it. -/
theorem call_return_bracketed {key : Random.Key} {dialect : Dialect} {s t : State}
    (hreach : Reachable key dialect s) (hs : s.fault = none) (hw : Word.group s.nextWord = 0x2)
    (hfree : s.stack.pointer.toNat < 16) (haway : AwayFrom s.stack.pointer s.cycle t) :
    (s.stack.pointer.toNat < t.stack.pointer.toNat ∧
      (∀ i < s.stack.pointer.toNat, t.stack.slot i = s.stack.slot i) ∧
      t.stack.slot s.stack.pointer.toNat = s.pc + 2) ∧
    ∀ (host : Host) (console : Console) (r : StateRequest), r.isElementary = true →
      (t.after host console r).stack.pointer = s.stack.pointer →
        r = .cycle ∧ t.fault = none ∧ t.nextWord = 0x00EE ∧
          (t.after host console r).opcode = 0x00EE ∧
          (t.after host console r).pc = s.pc + 2 ∧
          (t.after host console r).stack = s.stack := by
  have hext : s.stack.Extends (s.pc + 2) t.stack := by
    refine haway.extends_stack hreach.cycle ?_
    rw [cycle_call hs hw hfree]
    exact CallStack.extends_push _ hfree
  refine ⟨⟨hext.deeper, hext.below, hext.saved⟩, fun host console r hr hback => ?_⟩
  have hwell := (wellFormed_of_reachable (haway.reachable hreach.cycle)).stack
  by_cases hcycle : r = .cycle
  · subst hcycle
    rcases extends_cycle hext hwell.pointer_le with h | ⟨hfault, hword, hpointer, hstack, hpc⟩
    · exact absurd (congrArg UInt8.toNat hback) (Nat.ne_of_gt h.deeper)
    · have hbase := (wellFormed_of_reachable hreach).stack
      have hpop := hext.pop_eq hbase hwell (by rw [← hstack, hpointer])
      refine ⟨rfl, hfault, hword, (opcode_cycle hfault).trans hword, ?_, ?_⟩
      · exact hpc.trans (congrArg Prod.snd hpop)
      · exact hstack.trans (congrArg Prod.fst hpop)
  · rw [stack_after t host console hr hcycle] at hback
    exact absurd (congrArg UInt8.toNat hback) (Nat.ne_of_gt hext.deeper)

/-- A routine that calls another one; the timers tick while the inner one runs. -/
theorem call_return_bracketed_nested :
    let s := (powerOn ⟨0, 0⟩ {}).afterCalls
      [.loadProgram [0x22, 0x04, 0x00, 0x00, 0x22, 0x08, 0x00, 0xEE, 0x00, 0xEE]]
    s.cycle.cycle.tick.cycle.stack.slot 0 = 0x202 ∧
      s.cycle.cycle.tick.cycle.cycle.stack.pointer = 0 ∧
      s.cycle.cycle.tick.cycle.cycle.pc = 0x202 ∧
      s.cycle.cycle.tick.cycle.cycle.stack = s.stack := by
  intro s
  have hreach : Reachable ⟨0, 0⟩ {} s := Reachable.powerOn.afterCalls rfl
  have hrun : s.fault = none ∧ Word.group s.nextWord = 0x2 ∧ s.stack.pointer = 0 ∧ s.pc = 0x200 ∧
      s.cycle.cycle.stack.pointer ≠ 0 ∧ s.cycle.cycle.tick.stack.pointer ≠ 0 ∧
      s.cycle.cycle.tick.cycle.stack.pointer ≠ 0 ∧
      s.cycle.cycle.tick.cycle.cycle.stack.pointer = 0 := by
    decide +kernel
  clear_value s
  obtain ⟨hs, hw, hempty, hpc, hinner, htick, houter, hback⟩ := hrun
  rw [← hempty] at hinner htick houter
  have haway : AwayFrom s.stack.pointer s.cycle s.cycle.cycle.tick.cycle :=
    .call (.call (.call .start .empty .forMachine (r := .cycle) rfl hinner)
      .empty .forMachine (r := .tick) rfl htick) .empty .forMachine (r := .cycle) rfl houter
  have hfree : s.stack.pointer.toNat < 16 := by
    rw [hempty]
    decide
  obtain ⟨⟨-, -, hsaved⟩, hreturn⟩ := call_return_bracketed hreach hs hw hfree haway
  obtain ⟨-, -, -, -, hpc', hstack⟩ :=
    hreturn .empty .forMachine .cycle rfl (hback.trans hempty.symm)
  rw [hpc] at hsaved hpc'
  rw [hempty] at hsaved
  exact ⟨hsaved, hback, hpc', hstack⟩

end State

end Chip8
