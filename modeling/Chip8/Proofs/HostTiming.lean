import Chip8.Proofs.Context
import Chip8.Proofs.Writes
import Chip8.State.Keys

/-!
# The moment of a tick or a refresh

A tick of the timers and a refresh of the keypad revise the context of a program.  A run that
executes no word for the timers comes to the same whether the tick falls before it or after it, and
likewise a run that executes no word for the keys and a refresh (`host_commutes`).  So a host may
place its ticks and refreshes anywhere in such a run.
-/

namespace Chip8

namespace Context

def tick (c : Context) : Context :=
  { c with
    delay := if 0 < c.delay then c.delay - 1 else c.delay
    sound := if 0 < c.sound then c.sound - 1 else c.sound }

def refreshKeys (keys : Keypad) (c : Context) : Context :=
  { c with seenKeys := c.keypad, keypad := keys }

end Context

/-- A list of sixteen plain items is a list of flags. -/
theorem Keypad.ofFlags_list {items : List Value} (hlength : items.length = 16)
    (hitems : ∀ v ∈ items, v.isList = false) :
    ofFlags (.list items) = .ok (ofFlagList (Value.truths items)) := by
  have hne : items ≠ [] := by
    rintro rfl
    cases hlength
  have hsizes := Value.sizes_of_not_list hne hitems
  rw [hlength] at hsizes
  simp only [ofFlags, Value.items?, hsizes]
  rfl

namespace State

/-- The next cycle executes a word that reads or sets a timer. -/
def UsesTimers (s : State) : Prop :=
  s.fault = none ∧ Word.IsDevice s.nextWord [0x07, 0x15, 0x18]

/-- The next cycle executes a word that reads the keys. -/
def ReadsKeys (s : State) : Prop :=
  s.fault = none ∧
    (Word.group s.nextWord = 0xE ∧ Word.nn s.nextWord ∈ [0x9E, 0xA1] ∨
      Word.IsDevice s.nextWord [0x0A])

instance (s : State) : Decidable s.UsesTimers :=
  inferInstanceAs (Decidable (_ ∧ _ ∧ _))

instance (s : State) : Decidable s.ReadsKeys :=
  inferInstanceAs (Decidable (_ ∧ (_ ∧ _ ∨ _ ∧ _)))

section

variable {s : State} {i : Instruction}

theorem tick_eq_revise (s : State) : s.tick = s.revise Context.tick := rfl

theorem refreshKeys_eq_revise (s : State) (keys : Keypad) :
    s.refreshKeys keys = s.revise (Context.refreshKeys keys) := rfl

/-! ## Instructions -/

theorem overlooks_tick (h : ¬ s.UsesTimers) (hi : s.upcoming? = some i) :
    s.Overlooks Context.tick i := by
  obtain ⟨hs, hform⟩ := hasForm_of_upcoming hi
  cases i with
  | readDelay x | setDelay x | setSound x =>
    obtain ⟨hgroup, hnn, -⟩ := hform
    refine absurd ⟨hs, hgroup, ?_⟩ h
    simp [hnn]
  | skipIfDown | skipIfUp => exact rfl
  | awaitKey => exact ⟨rfl, rfl, rfl⟩
  | arithmetic => exact fun _ => .inl rfl
  | jumpOffset => exact .inl rfl
  | _ => trivial

theorem overlooks_refreshKeys (keys : Keypad) (h : ¬ s.ReadsKeys) (hi : s.upcoming? = some i) :
    s.Overlooks (Context.refreshKeys keys) i := by
  obtain ⟨hs, hform⟩ := hasForm_of_upcoming hi
  cases i with
  | skipIfDown x | skipIfUp x =>
    obtain ⟨hgroup, hnn, -⟩ := hform
    refine absurd ⟨hs, .inl ⟨hgroup, ?_⟩⟩ h
    simp [hnn]
  | awaitKey x =>
    obtain ⟨hgroup, hnn, -⟩ := hform
    refine absurd ⟨hs, .inr ⟨hgroup, ?_⟩⟩ h
    simp [hnn]
  | readDelay | setDelay | setSound => exact rfl
  | arithmetic => exact fun _ => .inl rfl
  | jumpOffset => exact .inl rfl
  | _ => trivial

/-! ## Runs -/

theorem cycles_tick {n : Nat} (h : ∀ k < n, ¬ (s.cycles k).UsesTimers) :
    s.tick.cycles n = (s.cycles n).tick := by
  rw [tick_eq_revise, tick_eq_revise]
  apply cycles_revise
  intro k hk i hi
  exact overlooks_tick (h k hk) hi

theorem cycles_refreshKeys {n : Nat} (h : ∀ k < n, ¬ (s.cycles k).ReadsKeys) (keys : Keypad) :
    (s.refreshKeys keys).cycles n = (s.cycles n).refreshKeys keys := by
  rw [refreshKeys_eq_revise, refreshKeys_eq_revise]
  apply cycles_revise
  intro k hk i hi
  exact overlooks_refreshKeys keys (h k hk) hi

end

/-- A run that executes no word for the timers commutes with a tick, and a run that executes no word
for the keys commutes with every refresh from sixteen flags. -/
theorem host_commutes (s : State) (n : Nat) :
    ((∀ k < n, ¬ (s.cycles k).UsesTimers) → s.tick.cycles n = (s.cycles n).tick) ∧
    ((∀ k < n, ¬ (s.cycles k).ReadsKeys) →
      ∀ flags : List Value, flags.length = 16 → (∀ v ∈ flags, v.isList = false) →
        ∃ t, (s.setKeys (.list flags)).result = .ok t ∧
          ((s.cycles n).setKeys (.list flags)).result = .ok (t.cycles n)) := by
  refine ⟨cycles_tick, ?_⟩
  intro h flags hlength hflags
  have hkeys := Keypad.ofFlags_list hlength hflags
  refine ⟨s.refreshKeys (Keypad.ofFlagList (Value.truths flags)), ?_, ?_⟩
  · rw [setKeys, hkeys]
    rfl
  · rw [setKeys, hkeys, cycles_refreshKeys h]
    rfl

/-- While the delay timer counts down from five, a random byte is drawn as a sprite, and a return
from nowhere halts the machine one cycle before the end of the run. -/
theorem host_commutes_underflow :
    let s : State :=
      { powerOn ⟨0, 0⟩ {} with
        memory := Memory.blank.store 0x200 [0xC0, 0xFF, 0xD0, 0x05, 0x00, 0xEE]
        delay := 5 }
    let flags : List Value := List.replicate 15 (.int 0) ++ [.bool true]
    (∀ k < 4, ¬ (s.cycles k).UsesTimers) ∧ (∀ k < 4, ¬ (s.cycles k).ReadsKeys) ∧
      flags.length = 16 ∧ (∀ v ∈ flags, v.isList = false) ∧
      (s.cycles 3).fault = some .stackUnderflow ∧ s.tick.delay = 4 ∧
      s.tick.cycles 4 = (s.cycles 4).tick ∧
      ∃ t, (s.setKeys (.list flags)).result = .ok t ∧
        ((s.cycles 4).setKeys (.list flags)).result = .ok (t.cycles 4) := by
  intro s flags
  have heval : (∀ k < 4, ¬ (s.cycles k).UsesTimers) ∧ (∀ k < 4, ¬ (s.cycles k).ReadsKeys) ∧
      (s.cycles 3).fault = some .stackUnderflow ∧ s.tick.delay = 4 := by
    decide +kernel
  obtain ⟨htimers, hkeys, hfault, hdelay⟩ := heval
  have hlength : flags.length = 16 := rfl
  have hitems : ∀ v ∈ flags, v.isList = false := by decide
  have hcommutes := host_commutes s 4
  exact ⟨htimers, hkeys, hlength, hitems, hfault, hdelay, hcommutes.1 htimers,
    hcommutes.2 hkeys flags hlength hitems⟩

end State

end Chip8
