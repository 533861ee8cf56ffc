import Chip8.State.Execute

/-!
# Running

`State.fetch` reads the word at the program counter, `State.cycle` fetches and executes one
instruction, and `State.cycles` does so a number of times.  A halted state is a fixed point of
`cycle`, so a run stops changing anything at its first fault.
-/

namespace Chip8.State

/-- The word at the program counter, with the state that points past it.  A word that does not
fit in memory halts the machine where it stands, with 0 as its last word. -/
def fetch (s : State) : State × Word :=
  if Memory.size ≤ s.pc.toNat + 1 then
    ({ s with fault := some .outOfBounds, opcode := 0 }, 0)
  else
    ({ s with pc := s.pc + 2 },
      Word.ofBytes (s.memory.read s.pc.toNat) (s.memory.read (s.pc.toNat + 1)))

/-- Fetch and execute one instruction, unless the machine is or comes to be halted. -/
def cycle (s : State) : State :=
  if s.isHalted then s
  else
    let (fetched, word) := s.fetch
    if fetched.isHalted then fetched else fetched.execute word

def cycles : Nat → State → State
  | 0, s => s
  | n + 1, s => cycles n s.cycle

theorem isHalted_of_fault {s : State} {f : Fault} (h : s.fault = some f) : s.isHalted = true := by
  rw [isHalted, h, Option.isSome_some]

theorem isHalted_of_none {s : State} (h : s.fault = none) : s.isHalted = false := by
  rw [isHalted, h, Option.isSome_none]

theorem cycle_of_halted {s : State} (h : s.isHalted = true) : s.cycle = s := by
  simp [cycle, h]

theorem cycles_of_halted (n : Nat) {s : State} (h : s.isHalted = true) : s.cycles n = s := by
  induction n with
  | zero => rfl
  | succ n ih => rw [cycles, cycle_of_halted h, ih]

end Chip8.State
