import Chip8.Proofs.Calls
import Chip8.Proofs.Dispatch

/-!
# Key presses

An instruction that waits for a key compares the keypad with the keys that count as seen.  The host
writes both when it refreshes the keypad, and the instruction writes the latter when it completes.
So the keypad is that of the latest refresh, and the seen keys are those of the refresh before it,
unless the press was already taken (`KeyHistory`).  A press that was taken stays taken until the next
refresh, so no second instruction completes on it (`press_completes_once`).
-/

namespace Chip8

namespace Keypad

/-! ## Keys that went down -/

/-- The key is down now and was up before. -/
def WentDown (now before : Keypad) (k : Fin 16) : Prop :=
  now.isDown k = true ∧ before.isDown k = false

/-- The lowest of the keys that went down. -/
def IsFirstDown (now before : Keypad) (k : Fin 16) : Prop :=
  now.WentDown before k ∧ ∀ j < k, ¬ now.WentDown before j

instance (now before : Keypad) (k : Fin 16) : Decidable (now.WentDown before k) :=
  inferInstanceAs (Decidable (_ ∧ _))

theorem firstPressed?_eq_some {now before : Keypad} {k : Fin 16}
    (h : now.IsFirstDown before k) : now.firstPressed? before = some k :=
  firstPressed?_eq_some_iff.2 h

theorem firstPressed?_eq_none {now before : Keypad} (h : ∀ k, ¬ now.WentDown before k) :
    now.firstPressed? before = none := by
  cases hfirst : now.firstPressed? before with
  | none => rfl
  | some k => exact absurd (firstPressed?_eq_some_iff.1 hfirst).1 (h k)

theorem exists_isFirstDown {now before : Keypad} {k : Fin 16} (h : now.WentDown before k) :
    ∃ j, now.IsFirstDown before j := by
  cases hfirst : now.firstPressed? before with
  | some j => exact ⟨j, firstPressed?_eq_some_iff.1 hfirst⟩
  | none =>
    rw [firstPressed?, List.find?_eq_none] at hfirst
    refine absurd ?_ (hfirst k (List.mem_finRange k))
    rw [h.1, h.2]
    rfl

theorem firstPressed?_eq_none_iff {now before : Keypad} :
    now.firstPressed? before = none ↔ ∀ k, ¬ now.WentDown before k := by
  refine ⟨fun hnone k hk => ?_, firstPressed?_eq_none⟩
  obtain ⟨j, hj⟩ := exists_isFirstDown hk
  rw [firstPressed?_eq_some hj] at hnone
  cases hnone

theorem not_wentDown_self (p : Keypad) (k : Fin 16) : ¬ p.WentDown p k := by
  rintro ⟨hdown, hup⟩
  rw [hdown] at hup
  cases hup

end Keypad

namespace State

/-! ## Waiting for a key -/

/-- The next instruction waits for a key, for a register. -/
structure AwaitsKey (s : State) (x : Register) : Prop where
  fault : s.fault = none
  group : Word.group s.nextWord = 0xF
  nn : Word.nn s.nextWord = 0x0A
  register : Word.x s.nextWord = x

section Awaiting

variable {s : State} {x : Register} (h : s.AwaitsKey x)

include h in
theorem AwaitsKey.pc_lt : s.pc.toNat < 4095 := by
  apply pc_lt_of_group_ne_zero
  rw [h.group]
  decide

include h in
theorem AwaitsKey.upcoming : s.upcoming? = some (.awaitKey x) := by
  refine upcoming?_eq_some_iff.2 ⟨⟨h.fault, h.pc_lt⟩, ?_⟩
  exact Instruction.decode_of_hasForm ⟨h.group, h.nn, h.register.symm⟩

include h in
/-- Without a key that went down, only the recorded word changes. -/
theorem AwaitsKey.cycle_of_idle (hidle : ∀ k, ¬ s.keypad.WentDown s.seenKeys k) :
    s.cycle = { s with opcode := s.nextWord } := by
  have hnone := Keypad.firstPressed?_eq_none hidle
  rw [cycle_of_upcoming h.upcoming]
  simp only [perform, awaitKey, hnone, UInt16.add_sub_cancel]

include h in
theorem AwaitsKey.cycle_of_isFirstDown {k : Fin 16} (hk : s.keypad.IsFirstDown s.seenKeys k) :
    s.cycle = { s with
      opcode := s.nextWord
      pc := s.pc + 2
      registers := (s.setRegister x (UInt8.ofNat k)).registers
      seenKeys := s.keypad } := by
  have hsome := Keypad.firstPressed?_eq_some hk
  rw [cycle_of_upcoming h.upcoming]
  simp only [perform, awaitKey, hsome, setRegister]

end Awaiting

/-- The next cycle completes an instruction that waits for a key. -/
structure CompletesWait (s : State) (x : Register) : Prop extends AwaitsKey s x where
  moves : s.cycle.pc = s.pc + 2

/-- A wait completes because a key went down. -/
theorem CompletesWait.exists_isFirstDown {s : State} {x : Register} (h : s.CompletesWait x) :
    ∃ k, s.keypad.IsFirstDown s.seenKeys k := by
  by_contra hnone
  have hidle : ∀ k, ¬ s.keypad.WentDown s.seenKeys k :=
    fun k hk => hnone (Keypad.exists_isFirstDown hk)
  have hmoves := h.moves
  rw [h.cycle_of_idle hidle] at hmoves
  have hself : s.pc.toNat = (s.pc + 2).toNat := congrArg UInt16.toNat hmoves
  have hlt := h.pc_lt
  rw [UInt16.toNat_add] at hself
  have htwo : (2 : UInt16).toNat = 2 := rfl
  omega

/-! ## The keys of a history -/

theorem sameKeys_after (s : State) (host : Host) (console : Console) {r : StateRequest}
    (hr : r.isElementary = true) (hcycle : r ≠ .cycle) (hrefresh : r.refresh? = none) :
    (s.after host console r).keypad = s.keypad ∧
      (s.after host console r).seenKeys = s.seenKeys := by
  obtain ⟨memory, delay, sound, fault, heq⟩ := s.after_of_ne_cycle host console hr hcycle
  rw [heq, hrefresh]
  exact ⟨rfl, rfl⟩

/-- How the keys of a state come from the refreshes so far.  Before the first one all keys count as
up. -/
structure KeyHistory (s : State) (past : List Keypad) : Prop where
  keypad : s.keypad = past.getLastD .released
  seenKeys : s.seenKeys = past.dropLast.getLastD .released ∨ s.seenKeys = s.keypad

theorem keyHistory_powerOn (key : Random.Key) (dialect : Dialect) :
    (powerOn key dialect).KeyHistory [] :=
  ⟨rfl, .inl rfl⟩

theorem KeyHistory.after {s : State} {past : List Keypad} (h : s.KeyHistory past)
    (host : Host) (console : Console) {r : StateRequest} (hr : r.isElementary = true) :
    (s.after host console r).KeyHistory (past ++ r.refresh?.toList) := by
  cases hrefresh : r.refresh? with
  | some keys =>
    rw [after_of_refresh s host console hrefresh]
    refine ⟨?_, .inl ?_⟩
    · simp [refreshKeys]
    · simp [refreshKeys, h.keypad]
  | none =>
    rw [Option.toList_none, List.append_nil]
    by_cases hcycle : r = .cycle
    · subst hcycle
      rw [after_cycle]
      refine ⟨(keypad_cycle s).trans h.keypad, ?_⟩
      rw [keypad_cycle]
      rcases seenKeys_cycle s with hsame | htaken
      · rw [hsame]
        exact h.seenKeys
      · exact .inr htaken
    · obtain ⟨hkeypad, hseen⟩ := sameKeys_after s host console hr hcycle hrefresh
      refine ⟨hkeypad.trans h.keypad, ?_⟩
      rw [hseen, hkeypad]
      exact h.seenKeys

theorem KeyHistory.afterAll {s : State} {past : List Keypad} (h : s.KeyHistory past)
    {cs : List (HostCall StateRequest)} (hcs : ∀ c ∈ cs, c.request.isElementary = true) :
    (s.afterAll cs).KeyHistory (past ++ refreshes cs) := by
  induction cs generalizing s past with
  | nil =>
    rw [refreshes, List.filterMap_nil, List.append_nil]
    exact h
  | cons c cs ih =>
    have hc := h.after c.host c.console (hcs c List.mem_cons_self)
    have hrest := ih hc fun d hd => hcs d (List.mem_cons_of_mem c hd)
    rwa [List.append_assoc, ← refreshes_cons] at hrest

/-! ## A press that was taken -/

/-- Until the next refresh a press that was taken is not seen again. -/
theorem seenKeys_afterAll {s : State} (h : s.seenKeys = s.keypad)
    {cs : List (HostCall StateRequest)} (hcs : ∀ c ∈ cs, c.request.isElementary = true)
    (hrefreshes : refreshes cs = []) : (s.afterAll cs).seenKeys = (s.afterAll cs).keypad := by
  refine afterAll_induct (P := fun t => t.seenKeys = t.keypad) h fun t ht c hc => ?_
  by_cases hcycle : c.request = .cycle
  · rw [hcycle, after_cycle, keypad_cycle]
    rcases seenKeys_cycle t with hsame | htaken
    · exact hsame.trans ht
    · exact htaken
  · obtain ⟨hkeypad, hseen⟩ := sameKeys_after t c.host c.console (hcs c hc) hcycle
      (List.filterMap_eq_nil_iff.1 hrefreshes c hc)
    rw [hkeypad, hseen, ht]

theorem not_completesWait_of_seen {s : State} (h : s.seenKeys = s.keypad) (x : Register) :
    ¬ s.CompletesWait x := by
  intro hcompletes
  obtain ⟨k, hk⟩ := hcompletes.exists_isFirstDown
  rw [h] at hk
  exact Keypad.not_wentDown_self s.keypad k hk.1

/-- A wait completes only after a refresh of the keypad, with the lowest key that is down in the
latest refresh and was up in the one before it, and none completes from there to the next
refresh. -/
theorem press_completes_once {key : Random.Key} {dialect : Dialect}
    {cs : List (HostCall StateRequest)} (hcs : ∀ c ∈ cs, c.request.isElementary = true)
    {x : Register} (h : ((powerOn key dialect).afterAll cs).CompletesWait x) :
    (∃ earlier latest k, refreshes cs = earlier ++ [latest] ∧
      latest.IsFirstDown (earlier.getLastD .released) k ∧
      (((powerOn key dialect).afterAll cs).cycle.register x).toNat = k.val) ∧
    ∀ ds : List (HostCall StateRequest), (∀ d ∈ ds, d.request.isElementary = true) →
      refreshes ds = [] → ∀ y,
        ¬ ((powerOn key dialect).afterAll (cs ++ { request := .cycle } :: ds)).CompletesWait y := by
  have hhistory := (keyHistory_powerOn key dialect).afterAll hcs
  rw [List.nil_append] at hhistory
  obtain ⟨k, hk⟩ := h.exists_isFirstDown
  have hcycle := h.cycle_of_isFirstDown hk
  have hpending : ((powerOn key dialect).afterAll cs).seenKeys ≠
      ((powerOn key dialect).afterAll cs).keypad := by
    intro hseen
    exact not_completesWait_of_seen hseen x h
  have hseen := hhistory.seenKeys.resolve_right hpending
  refine ⟨?_, fun ds hds hrefreshes y => ?_⟩
  · rcases List.eq_nil_or_concat (refreshes cs) with hnil | ⟨earlier, latest, hlast⟩
    · -- Before the first refresh no key is down.
      rw [hhistory.keypad, hnil] at hk
      exact absurd hk.1.1 (by simp [Keypad.isDown, Keypad.released])
    · rw [List.concat_eq_append] at hlast
      refine ⟨earlier, latest, k, hlast, ?_, ?_⟩
      · rw [hseen, hhistory.keypad, hlast] at hk
        simpa using hk
      · rw [hcycle]
        simp [register, setRegister]
        omega
  · rw [afterAll_append, afterAll_cons, after_cycle]
    refine not_completesWait_of_seen (seenKeys_afterAll ?_ hds hrefreshes) y
    rw [hcycle]

/-- Two keys go down at once while the first of two waits is at its place. -/
theorem press_completes_once_lower :
    let s := (powerOn ⟨0, 0⟩ {}).afterAll
      [{ request := .loadProgram [0xF3, 0x0A, 0xF4, 0x0A] }, { request := .cycle },
        { request := .setPressed (.list [.int 13, .int 5]) }]
    s.CompletesWait 3 ∧ (s.cycle.register 3).toNat = 5 ∧
      ∀ y, ¬ (s.cycle.tick.resume false).CompletesWait y := by
  intro s
  have hrun : s.fault = none ∧ s.nextWord = 0xF30A ∧ s.cycle.pc = s.pc + 2 := by decide +kernel
  obtain ⟨hs, hw, hmoves⟩ := hrun
  have hcompletes : s.CompletesWait 3 :=
    ⟨⟨hs, by rw [hw]; decide, by rw [hw]; decide, by rw [hw]; decide⟩, hmoves⟩
  obtain ⟨-, htaken⟩ := press_completes_once (by decide) hcompletes
  refine ⟨hcompletes, by decide +kernel, fun y => ?_⟩
  have hnot := htaken [{ request := .tick }, { request := .resume false }] (by decide) rfl y
  rwa [afterAll_append, afterAll_cons, after_cycle, afterAll_cons, after_tick, afterAll_cons,
    after_resume, afterAll_nil] at hnot

end State

end Chip8
