import Chip8.Proofs.Dispatch
import Chip8.Proofs.Trace

/-!
# The random stream

The key of the `r`-th draw is the initial key advanced `r` times, `Random.Key.stream`.  Nothing but
a draw advances the key, not a fault and not a host, so the stream depends on the initial key and on
the number of draws alone (`random_eq_stream`).
-/

namespace Chip8

/-- The key of each draw. -/
def Random.Key.stream (k : Key) : Nat → Key
  | 0 => k
  | r + 1 => (k.stream r).next

namespace State

/-- The next cycle executes a draw. -/
def Draws (s : State) : Prop := s.fault = none ∧ Word.group s.nextWord = 0xC

instance (s : State) : Decidable s.Draws := inferInstanceAs (Decidable (_ ∧ _))

/-- The states from which a trace draws, in order. -/
def draws : List Moment → List State
  | [] => []
  | .cycle s :: es => if s.Draws then s :: draws es else draws es
  | .tick :: es => draws es

/-- The bytes that a trace draws. -/
def drawnBytes (es : List Moment) : List UInt8 := (draws es).map fun s => s.random.byte

/-! ## One cycle -/

theorem cycle_of_draws {s : State} (h : s.Draws) :
    s.cycle = { s with
      opcode := s.nextWord
      pc := s.pc + 2
      random := s.random.next }.setRegister (Word.x s.nextWord)
        (s.random.byte &&& Word.nn s.nextWord) := by
  obtain ⟨hs, hw⟩ := h
  have hpc : s.pc.toNat < 4095 := pc_lt_of_group_ne_zero (by rw [hw]; decide)
  rw [cycle_of_lt hs hpc, Instruction.decode_of_hasForm (i := .random _ _) ⟨hw, rfl, rfl⟩]
  rfl

theorem random_cycle_of_draws {s : State} (h : s.Draws) : s.cycle.random = s.random.next := by
  rw [cycle_of_draws h]
  rfl

theorem register_cycle_of_draws {s : State} (h : s.Draws) :
    s.cycle.register (Word.x s.nextWord) = s.random.byte &&& Word.nn s.nextWord := by
  rw [cycle_of_draws h, register_setRegister, if_pos rfl]

theorem random_cycle_of_not_draws {s : State} (h : ¬ s.Draws) : s.cycle.random = s.random := by
  have hsame : s.SameAt s.cycle .random := by
    apply sameAt_cycle
    intro hs hw
    exact h ⟨hs, hw⟩
  exact hsame

/-! ## Traces -/

theorem draws_append (es fs : List Moment) : draws (es ++ fs) = draws es ++ draws fs := by
  induction es with
  | nil => rfl
  | cons e es ih =>
    cases e with
    | tick => exact ih
    | cycle s =>
      simp only [List.cons_append, draws, ih]
      split
      · rfl
      · rfl

theorem draws_concat_cycle (es : List Moment) (s : State) :
    draws (es ++ [.cycle s]) = if s.Draws then draws es ++ [s] else draws es := by
  rw [draws_append, draws, draws]
  by_cases h : s.Draws
  · rw [if_pos h, if_pos h]
  · rw [if_neg h, if_neg h, List.append_nil]

theorem draws_concat_tick (es : List Moment) : draws (es ++ [.tick]) = draws es := by
  rw [draws_append, draws, draws, List.append_nil]

section

variable {key : Random.Key} {dialect : Dialect} {es : List Moment} {t : State}

theorem random_of_timeline (h : Timeline (powerOn key dialect) es t) :
    t.random = key.stream (draws es).length := by
  induction h with
  | start => rfl
  | load _ _ ih | refreshKeys _ _ ih | resume _ _ ih => exact ih
  | tick _ ih =>
    rw [draws_concat_tick]
    exact ih
  | @cycle es t _ ih =>
    rw [draws_concat_cycle]
    by_cases hdraws : t.Draws
    · rw [if_pos hdraws, List.length_append, random_cycle_of_draws hdraws, ih]
      rfl
    · rw [if_neg hdraws, random_cycle_of_not_draws hdraws, ih]

theorem drawnBytes_of_timeline (h : Timeline (powerOn key dialect) es t) :
    drawnBytes es = (List.range (draws es).length).map fun r => (key.stream r).byte := by
  induction h with
  | start => rfl
  | load _ _ ih | refreshKeys _ _ ih | resume _ _ ih => exact ih
  | tick _ ih =>
    rw [drawnBytes, draws_concat_tick]
    exact ih
  | @cycle es t h ih =>
    rw [drawnBytes, draws_concat_cycle]
    by_cases hdraws : t.Draws
    · rw [if_pos hdraws, List.map_append, List.length_append, List.length_singleton,
        List.range_succ, List.map_append, ← ih, List.map_singleton, List.map_singleton,
        random_of_timeline h]
      rfl
    · rw [if_neg hdraws]
      exact ih

/-- Of two timelines from one key, the one with fewer draws has seen the beginning of the other. -/
theorem drawnBytes_of_le {dialect' : Dialect} {fs : List Moment} {u : State}
    (h : Timeline (powerOn key dialect) es t) (h' : Timeline (powerOn key dialect') fs u)
    (hle : (draws es).length ≤ (draws fs).length) : drawnBytes es <+: drawnBytes fs := by
  obtain ⟨k, hk⟩ := Nat.exists_eq_add_of_le hle
  rw [drawnBytes_of_timeline h, drawnBytes_of_timeline h', hk, List.range_add, List.map_append]
  exact List.prefix_append _ _

end

/-- Whatever a host does after power-on, the number of draws so far names the key in the stream, at
the end and at the start of every cycle on the way; a draw leaves the masked byte of its key in its
register; and two histories with one key draw the same bytes as long as both draw. -/
theorem random_eq_stream (key : Random.Key) (dialect : Dialect)
    {cs : List (HostCall StateRequest)} (hcs : ∀ c ∈ cs, c.request.isHostCall = true) :
    ((powerOn key dialect).afterAll cs).random =
        key.stream (draws ((powerOn key dialect).trace cs)).length ∧
      (∀ earlier u, earlier ++ [.cycle u] <+: (powerOn key dialect).trace cs →
        u.random = key.stream (draws earlier).length ∧
          (u.Draws → u.cycle.register (Word.x u.nextWord) =
            (key.stream (draws earlier).length).byte &&& Word.nn u.nextWord)) ∧
      ∀ dialect' cs', (∀ c ∈ cs', c.request.isHostCall = true) →
        drawnBytes ((powerOn key dialect).trace cs) <+:
            drawnBytes ((powerOn key dialect').trace cs') ∨
          drawnBytes ((powerOn key dialect').trace cs') <+:
            drawnBytes ((powerOn key dialect).trace cs) := by
  have h := timeline_afterAll (s := powerOn key dialect) hcs
  refine ⟨random_of_timeline h, ?_, ?_⟩
  · intro earlier u hearlier
    have hrandom := random_of_timeline (h.before hearlier)
    refine ⟨hrandom, ?_⟩
    intro hdraws
    rw [register_cycle_of_draws hdraws, hrandom]
  · intro dialect' cs' hcs'
    have h' := timeline_afterAll (s := powerOn key dialect') hcs'
    rcases Nat.le_total (draws ((powerOn key dialect).trace cs)).length
      (draws ((powerOn key dialect').trace cs')).length with hle | hle
    · exact .inl (drawnBytes_of_le h h' hle)
    · exact .inr (drawnBytes_of_le h' h hle)

/-- Two draws, the second with the mask 15, then a return from nowhere and a resume; another program
with the same key draws once. -/
theorem random_eq_stream_two :
    let before : List (HostCall StateRequest) :=
      [⟨.loadProgram [0xC1, 0xFF, 0xC2, 0x0F, 0x00, 0xEE], .empty, .forMachine⟩,
        ⟨.cycle, .empty, .forMachine⟩]
    let later : List (HostCall StateRequest) :=
      [⟨.run 4 false, .empty, .forMachine⟩, ⟨.tick, .empty, .forMachine⟩,
        ⟨.resume true, .empty, .forMachine⟩]
    let other : List (HostCall StateRequest) :=
      [⟨.loadProgram [0x00, 0xE0, 0xC3, 0x00], .empty, .forMachine⟩,
        ⟨.run 2 false, .empty, .forMachine⟩]
    let key : Random.Key := ⟨0, 7⟩
    let s := powerOn key {}
    (∀ c ∈ before ++ later, c.request.isHostCall = true) ∧
      (∀ c ∈ other, c.request.isHostCall = true) ∧
      (s.afterAll (before ++ later)).random = key.next.next ∧
      (s.afterAll before).Draws ∧
      (s.afterAll before).cycle.register 2 = key.next.byte &&& 0x0F ∧
      (drawnBytes (s.trace (before ++ later)) <+: drawnBytes (s.trace other) ∨
        drawnBytes (s.trace other) <+: drawnBytes (s.trace (before ++ later))) := by
  intro before later other key s
  have hcs : ∀ c ∈ before ++ later, c.request.isHostCall = true := by decide
  have hother : ∀ c ∈ other, c.request.isHostCall = true := by decide
  -- One evaluation for all of them, since each would run the history again.
  have heval : (draws (s.trace (before ++ later))).length = 2 ∧
      (draws (s.trace before)).length = 1 ∧ (s.afterAll before).Draws ∧
      (s.afterAll before).nextWord = 0xC20F := by
    decide +kernel
  obtain ⟨hlength, hlengthBefore, hdraws, hword⟩ := heval
  have hearlier : s.trace before ++ [.cycle (s.afterAll before)] <+: s.trace (before ++ later) := by
    rw [trace_append]
    exact (List.prefix_append_right_inj _).2 ⟨_, rfl⟩
  obtain ⟨hrandom, hat, hpair⟩ := random_eq_stream key {} hcs
  rw [hlength] at hrandom
  have hregister := (hat _ _ hearlier).2 hdraws
  rw [hlengthBefore, hword] at hregister
  exact ⟨hcs, hother, hrandom, hdraws, hregister, hpair {} other hother⟩

end State

end Chip8
