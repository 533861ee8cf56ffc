import Chip8.Failure

/-!
# Settings

The options of a machine: the seed of its random bytes, its dialect and the two frequencies.
-/

namespace Chip8

/-- The options of a machine. -/
structure Settings where
  seed : Int := 0
  dialect : Dialect := {}
  /-- Instructions per second. -/
  instructionFrequency : Int := 700
  /-- Timer ticks per second. -/
  timerFrequency : Int := 60
deriving DecidableEq, Repr

namespace Settings

/-- The number of instructions between two timer ticks, at least one. -/
def instructionsPerFrame (s : Settings) : Except Failure Nat :=
  if s.timerFrequency = 0 then .error .timerStopped
  else .ok (max 1 (s.instructionFrequency.fdiv s.timerFrequency)).toNat

/-- The key of the first random byte: a given one, or that of the seed. -/
def firstKey (s : Settings) (given : Option Random.Key) : Except Failure Random.Key :=
  match given with
  | some k => .ok k
  | none =>
    match Random.Key.ofSeed? s.seed with
    | some k => .ok k
    | none => .error .seedOutOfRange

theorem one_le_instructionsPerFrame {s : Settings} {n : Nat}
    (h : s.instructionsPerFrame = .ok n) : 1 ≤ n := by
  unfold instructionsPerFrame at h
  split at h
  · simp at h
  · simp only [Except.ok.injEq] at h
    omega

end Settings

end Chip8
