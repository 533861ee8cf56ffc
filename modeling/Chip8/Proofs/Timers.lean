import Chip8.Proofs.Trace
import Chip8.Proofs.Writes

/-!
# Timers over a history

A timer reads what the last instruction to set it gave it, less the ticks since then and never below
zero (`timers_count_ticks`).  Both timers follow the one law, so its parts are stated for a `Timer`.
-/

namespace Chip8

inductive Timer where
  | delay
  | sound
deriving DecidableEq, Repr

namespace Timer

/-- The last two digits of the words that set the timer. -/
def code : Timer → UInt8
  | delay => 0x15
  | sound => 0x18

def part : Timer → Part
  | delay => .delay
  | sound => .sound

def reading (timer : Timer) (s : State) : UInt8 :=
  match timer with
  | delay => s.delay
  | sound => s.sound

end Timer

instance (w : Word) (codes : List UInt8) : Decidable (Word.IsDevice w codes) :=
  inferInstanceAs (Decidable (_ ∧ _))

namespace State

/-- The next cycle executes a word that sets the timer. -/
def Sets (s : State) (timer : Timer) : Prop :=
  s.fault = none ∧ Word.IsDevice s.nextWord [timer.code]

instance (s : State) (timer : Timer) : Decidable (s.Sets timer) :=
  inferInstanceAs (Decidable (_ ∧ _))

/-- The next cycle executes a word that reads the delay timer. -/
def ReadsDelay (s : State) : Prop := s.fault = none ∧ Word.IsDevice s.nextWord [0x07]

instance (s : State) : Decidable s.ReadsDelay := inferInstanceAs (Decidable (_ ∧ _))

end State

section

variable (timer : Timer)

/-- The value that a moment sets a timer to. -/
def Moment.setting? : Moment → Option UInt8
  | .cycle s => if s.Sets timer then some (s.register (Word.x s.nextWord)) else none
  | .tick => none

def Moment.isTick : Moment → Bool
  | .cycle _ => false
  | .tick => true

/-- The value that a timer was last set to, or 0. -/
def lastSetting (es : List Moment) : UInt8 :=
  (es.reverse.findSome? (Moment.setting? timer)).getD 0

/-- The ticks since a timer was last set. -/
def ticksSince (es : List Moment) : Nat :=
  (es.reverse.takeWhile fun e => (e.setting? timer).isNone).countP Moment.isTick

/-- What a timer should read after these moments. -/
def remaining (es : List Moment) : Nat := (lastSetting timer es).toNat - ticksSince timer es

variable {timer}

theorem remaining_of_setting {es : List Moment} {e : Moment} {v : UInt8}
    (h : e.setting? timer = some v) : remaining timer (es ++ [e]) = v.toNat := by
  have hticks : ticksSince timer (es ++ [e]) = 0 := by
    rw [ticksSince, List.reverse_concat, List.takeWhile_cons, h]
    rfl
  rw [remaining, hticks, lastSetting, List.reverse_concat, List.findSome?_cons, h]
  rfl

theorem remaining_of_cycle {es : List Moment} {s : State}
    (h : (Moment.cycle s).setting? timer = none) :
    remaining timer (es ++ [.cycle s]) = remaining timer es := by
  have hticks : ticksSince timer (es ++ [.cycle s]) = ticksSince timer es := by
    rw [ticksSince, List.reverse_concat, List.takeWhile_cons, h]
    rfl
  rw [remaining, hticks, lastSetting, List.reverse_concat, List.findSome?_cons, h]
  rfl

theorem remaining_of_tick (es : List Moment) :
    remaining timer (es ++ [.tick]) = remaining timer es - 1 := by
  have hticks : ticksSince timer (es ++ [.tick]) = ticksSince timer es + 1 := by
    rw [ticksSince, List.reverse_concat, List.takeWhile_cons_of_pos rfl,
      List.countP_cons_of_pos rfl]
    rfl
  rw [remaining, hticks, lastSetting, List.reverse_concat, List.findSome?_cons]
  exact Nat.sub_add_eq _ _ 1

end

/-! ## One moment -/

namespace State

variable {s : State} {timer : Timer}

theorem cycle_of_device {code : UInt8} (hs : s.fault = none)
    (hw : Word.IsDevice s.nextWord [code]) :
    s.cycle = { s with opcode := s.nextWord, pc := s.pc + 2 }.perform
        (Instruction.ofDevices s.nextWord) ∧ Word.nn s.nextWord = code := by
  obtain ⟨hgroup, hcode⟩ := hw
  have hpc : s.pc.toNat < 4095 := pc_lt_of_group_ne_zero (by rw [hgroup]; decide)
  rw [cycle_of_lt hs hpc, Instruction.decode_of_group_devices hgroup]
  exact ⟨rfl, List.mem_singleton.1 hcode⟩

theorem reading_cycle_of_sets (h : s.Sets timer) :
    timer.reading s.cycle = s.register (Word.x s.nextWord) := by
  obtain ⟨hcycle, hcode⟩ := cycle_of_device h.1 h.2
  rw [hcycle, Instruction.ofDevices, hcode]
  cases timer with
  | delay => rfl
  | sound => rfl

theorem register_cycle_of_readsDelay (h : s.ReadsDelay) :
    s.cycle.register (Word.x s.nextWord) = s.delay := by
  obtain ⟨hcycle, hcode⟩ := cycle_of_device h.1 h.2
  rw [hcycle, Instruction.ofDevices, hcode]
  exact (register_setRegister _ _ _ _).trans (if_pos rfl)

theorem reading_cycle_of_not_sets (h : ¬ s.Sets timer) :
    timer.reading s.cycle = timer.reading s := by
  have hsame : s.SameAt s.cycle timer.part := by
    apply sameAt_cycle
    intro hs hw
    cases timer with
    | delay => exact h ⟨hs, hw⟩
    | sound => exact h ⟨hs, hw⟩
  cases timer with
  | delay => exact hsame
  | sound => exact hsame

theorem toNat_countdown (v : UInt8) : (if 0 < v then v - 1 else v).toNat = v.toNat - 1 := by
  by_cases hv : 0 < v
  · rw [if_pos hv]
    have hle : (1 : UInt8) ≤ v := UInt8.le_iff_toNat_le.2 (UInt8.lt_iff_toNat_lt.1 hv)
    exact UInt8.toNat_sub_of_le v 1 hle
  · rw [if_neg hv]
    have hzero : v.toNat = 0 := Nat.eq_zero_of_not_pos fun h => hv (UInt8.lt_iff_toNat_lt.2 h)
    omega

theorem toNat_reading_tick (timer : Timer) (s : State) :
    (timer.reading s.tick).toNat = (timer.reading s).toNat - 1 := by
  cases timer with
  | delay => exact toNat_countdown s.delay
  | sound => exact toNat_countdown s.sound

/-! ## Histories -/

theorem reading_of_timeline {key : Random.Key} {dialect : Dialect} {es : List Moment} {t : State}
    (timer : Timer) (h : Timeline (powerOn key dialect) es t) :
    (timer.reading t).toNat = remaining timer es := by
  induction h with
  | start => cases timer <;> rfl
  | load _ _ ih | refreshKeys _ _ ih | resume _ _ ih => cases timer <;> exact ih
  | tick _ ih => rw [toNat_reading_tick, ih, remaining_of_tick]
  | @cycle es t _ ih =>
    by_cases hsets : t.Sets timer
    · have hsetting : (Moment.cycle t).setting? timer = some (t.register (Word.x t.nextWord)) :=
        if_pos hsets
      rw [reading_cycle_of_sets hsets, remaining_of_setting hsetting]
    · have hsetting : (Moment.cycle t).setting? timer = none := if_neg hsets
      rw [reading_cycle_of_not_sets hsets, ih, remaining_of_cycle hsetting]

theorem soundActive_iff (s : State) : s.soundActive = true ↔ 0 < s.sound.toNat := by
  rw [soundActive, decide_eq_true_iff]
  exact UInt8.lt_iff_toNat_lt

/-- Whatever a host does after power-on, each timer reads what it was last set to less the ticks
since then, every instruction that reads the delay timer gets that value, and the tone sounds while
the sound timer is not down to zero. -/
theorem timers_count_ticks (key : Random.Key) (dialect : Dialect)
    {cs : List (HostCall StateRequest)} (hcs : ∀ c ∈ cs, c.request.isHostCall = true) :
    (∀ timer : Timer, (timer.reading ((powerOn key dialect).afterAll cs)).toNat =
        (lastSetting timer ((powerOn key dialect).trace cs)).toNat -
          ticksSince timer ((powerOn key dialect).trace cs)) ∧
      (∀ earlier u, earlier ++ [.cycle u] <+: (powerOn key dialect).trace cs → u.ReadsDelay →
        (u.cycle.register (Word.x u.nextWord)).toNat =
          (lastSetting .delay earlier).toNat - ticksSince .delay earlier) ∧
      (((powerOn key dialect).afterAll cs).soundActive = true ↔
        0 < (lastSetting .sound ((powerOn key dialect).trace cs)).toNat -
          ticksSince .sound ((powerOn key dialect).trace cs)) := by
  have h := timeline_afterAll (s := powerOn key dialect) hcs
  refine ⟨fun timer => reading_of_timeline timer h, ?_, ?_⟩
  · intro earlier u hearlier hreads
    rw [register_cycle_of_readsDelay hreads]
    exact reading_of_timeline .delay (h.before hearlier)
  · rw [soundActive_iff]
    exact iff_of_eq (congrArg (0 < ·) (reading_of_timeline .sound h))

/-- Both timers are set to three after a first tick; the delay is read one tick later, and the sound
after another tick, with a fault in between. -/
theorem timers_count_ticks_both :
    let before : List (HostCall StateRequest) :=
      [⟨.loadProgram [0x61, 0x03, 0xF1, 0x15, 0xF1, 0x18, 0xF2, 0x07, 0x00, 0xEE], .empty,
          .forMachine⟩,
        ⟨.cycle, .empty, .forMachine⟩, ⟨.tick, .empty, .forMachine⟩,
        ⟨.run 2 false, .empty, .forMachine⟩, ⟨.tick, .empty, .forMachine⟩]
    let later : List (HostCall StateRequest) :=
      [⟨.run 2 false, .empty, .forMachine⟩, ⟨.resume true, .empty, .forMachine⟩,
        ⟨.tick, .empty, .forMachine⟩]
    let s := powerOn ⟨0, 0⟩ {}
    (∀ c ∈ before ++ later, c.request.isHostCall = true) ∧
      (s.afterAll (before ++ later)).sound.toNat = 3 - 2 ∧
      (s.afterAll (before ++ later)).soundActive = true ∧
      (s.afterAll before).ReadsDelay ∧
      ((s.afterAll before).cycle.register 2).toNat = 3 - 1 := by
  intro before later s
  have hcs : ∀ c ∈ before ++ later, c.request.isHostCall = true := by decide
  -- One evaluation for all of them, since each would run the history again.
  have heval : lastSetting .sound (s.trace (before ++ later)) = 3 ∧
      ticksSince .sound (s.trace (before ++ later)) = 2 ∧
      lastSetting .delay (s.trace before) = 3 ∧ ticksSince .delay (s.trace before) = 1 ∧
      (s.afterAll before).ReadsDelay ∧ Word.x (s.afterAll before).nextWord = 2 := by
    decide +kernel
  obtain ⟨hset, hticks, hdelaySet, hdelayTicks, hreads, hregister⟩ := heval
  have hearlier : s.trace before ++ [.cycle (s.afterAll before)] <+: s.trace (before ++ later) := by
    rw [trace_append]
    exact (List.prefix_append_right_inj _).2 ⟨_, rfl⟩
  obtain ⟨hreading, hread, hactive⟩ := timers_count_ticks ⟨0, 0⟩ {} hcs
  have hsound := hreading .sound
  rw [hset, hticks] at hsound hactive
  have hdelay := hread _ _ hearlier hreads
  rw [hregister, hdelaySet, hdelayTicks] at hdelay
  exact ⟨hcs, hsound, hactive.2 (by decide), hreads, hdelay⟩

end State

end Chip8
