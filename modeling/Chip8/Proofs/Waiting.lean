import Chip8.Proofs.KeyPress

/-!
# Waiting for a key is a stutter

As long as no key goes down, a machine that waits for one is where it was: cycles only record the
word again, ticks only count the timers down, and refreshes only change the keys (`Stutters`).  Each
refresh is compared with the one before it, so the first one in which a key goes down completes the
wait at the next cycle and no press is lost (`waiting_stutters`).
-/

namespace Chip8

/-- Whether a request lets the machine go on without any news from the host. -/
def StateRequest.isQuiet : StateRequest → Bool
  | .cycle | .cycles _ | .tick => true
  | _ => false

/-- Whether a request is a refresh of the keypad. -/
def StateRequest.isRefresh : StateRequest → Bool
  | .setKeys _ | .setPressed _ => true
  | _ => false

namespace State

/-- Apart from the recorded word, the timers and the keys, which are given, the second state is the
first one. -/
def Stutters (s : State) (keypad seenKeys : Keypad) (t : State) : Prop :=
  ∃ w delay sound, t = { s with
    opcode := w
    delay := delay
    sound := sound
    keypad := keypad
    seenKeys := seenKeys }

section Stutter

variable {s t : State} {x : Register} {keypad seenKeys : Keypad}

theorem stutters_refl (s : State) : s.Stutters s.keypad s.seenKeys s :=
  ⟨s.opcode, s.delay, s.sound, rfl⟩

/-! ## One change -/

theorem Stutters.awaitsKey (h : s.AwaitsKey x) (ht : s.Stutters keypad seenKeys t) :
    t.AwaitsKey x := by
  obtain ⟨w, delay, sound, rfl⟩ := ht
  exact ⟨h.fault, h.group, h.nn, h.register⟩

theorem Stutters.cycle (h : s.AwaitsKey x) (hidle : ∀ k, ¬ keypad.WentDown seenKeys k)
    (ht : s.Stutters keypad seenKeys t) : s.Stutters keypad seenKeys t.cycle := by
  have hawaits := ht.awaitsKey h
  obtain ⟨w, delay, sound, rfl⟩ := ht
  exact ⟨_, delay, sound, hawaits.cycle_of_idle hidle⟩

theorem Stutters.cycles (h : s.AwaitsKey x) (hidle : ∀ k, ¬ keypad.WentDown seenKeys k) (n : Nat)
    (ht : s.Stutters keypad seenKeys t) : s.Stutters keypad seenKeys (t.cycles n) := by
  induction n generalizing t with
  | zero => exact ht
  | succ n ih => exact ih (ht.cycle h hidle)

theorem Stutters.tick (ht : s.Stutters keypad seenKeys t) : s.Stutters keypad seenKeys t.tick := by
  obtain ⟨w, delay, sound, rfl⟩ := ht
  exact ⟨w, _, _, rfl⟩

theorem Stutters.refreshKeys (ht : s.Stutters keypad seenKeys t) (keys : Keypad) :
    s.Stutters keys keypad (t.refreshKeys keys) := by
  obtain ⟨w, delay, sound, rfl⟩ := ht
  exact ⟨w, delay, sound, rfl⟩

theorem Stutters.after (h : s.AwaitsKey x) (hidle : ∀ k, ¬ keypad.WentDown seenKeys k)
    (ht : s.Stutters keypad seenKeys t) (host : Host) (console : Console) {r : StateRequest}
    (hr : r.isQuiet = true) : s.Stutters keypad seenKeys (t.after host console r) := by
  cases r with
  | cycle => exact ht.cycle h hidle
  | cycles n => exact ht.cycles h hidle n
  | tick => exact ht.tick
  | _ => cases hr

/-- A refresh that fails changes nothing. -/
theorem after_of_refresh_none (t : State) (host : Host) (console : Console) {r : StateRequest}
    (hr : r.isRefresh = true) (hnone : r.refresh? = none) : t.after host console r = t := by
  cases r with
  | setKeys flags =>
    rw [after_setKeys, hnone]
    rfl
  | setPressed codes =>
    rw [after_setPressed, hnone]
    rfl
  | _ => cases hr

/-! ## A history of changes -/

theorem Stutters.afterAll_of_quiet (h : s.AwaitsKey x)
    (hidle : ∀ k, ¬ keypad.WentDown seenKeys k) (ht : s.Stutters keypad seenKeys t)
    {cs : List (HostCall StateRequest)} (hcs : ∀ c ∈ cs, c.request.isQuiet = true) :
    s.Stutters keypad seenKeys (t.afterAll cs) :=
  afterAll_induct ht fun _ ht' c hc => ht'.after h hidle c.host c.console (hcs c hc)

theorem Stutters.afterAll_of_ticks (ht : s.Stutters keypad seenKeys t)
    {cs : List (HostCall StateRequest)} (hcs : ∀ c ∈ cs, c.request = .tick) :
    s.Stutters keypad seenKeys (t.afterAll cs) := by
  refine afterAll_induct ht fun t' ht' c hc => ?_
  rw [hcs c hc]
  exact ht'.tick

/-- As long as no key goes down from one refresh to the next, the wait goes on, and the keypad is
that of the latest refresh. -/
theorem Stutters.afterAll (h : s.AwaitsKey x) (hidle : ∀ k, ¬ keypad.WentDown seenKeys k)
    (ht : s.Stutters keypad seenKeys t) {cs : List (HostCall StateRequest)}
    (hcs : ∀ c ∈ cs, c.request.isQuiet = true ∨ c.request.isRefresh = true)
    (hchain : (keypad :: refreshes cs).IsChain fun before now => ∀ k, ¬ now.WentDown before k) :
    ∃ seen, s.Stutters ((refreshes cs).getLastD keypad) seen (t.afterAll cs) := by
  induction cs generalizing t keypad seenKeys with
  | nil => exact ⟨seenKeys, ht⟩
  | cons c cs ih =>
    have hrest : ∀ d ∈ cs, d.request.isQuiet = true ∨ d.request.isRefresh = true :=
      fun d hd => hcs d (List.mem_cons_of_mem c hd)
    rw [refreshes_cons] at hchain ⊢
    rw [afterAll_cons]
    cases hrefresh : c.request.refresh? with
    | some keys =>
      rw [hrefresh, Option.toList_some, List.singleton_append, List.isChain_cons_cons] at hchain
      rw [after_of_refresh t c.host c.console hrefresh, Option.toList_some,
        List.singleton_append, List.getLastD_cons]
      exact ih hchain.1 (ht.refreshKeys keys) hrest hchain.2
    | none =>
      rw [hrefresh, Option.toList_none, List.nil_append] at hchain
      rw [Option.toList_none, List.nil_append]
      refine ih hidle ?_ hrest hchain
      rcases hcs c List.mem_cons_self with hquiet | hfails
      · exact ht.after h hidle c.host c.console hquiet
      · rwa [after_of_refresh_none t c.host c.console hfails hrefresh]

/-- A key that went down is taken at the next cycle. -/
theorem Stutters.completes (h : s.AwaitsKey x) (ht : s.Stutters keypad seenKeys t) {k : Fin 16}
    (hk : keypad.IsFirstDown seenKeys k) :
    ∃ delay sound, t.cycle = { s with
      opcode := s.nextWord
      pc := s.pc + 2
      registers := (s.setRegister x (UInt8.ofNat k)).registers
      delay := delay
      sound := sound
      keypad := keypad
      seenKeys := keypad } := by
  have hawaits := ht.awaitsKey h
  obtain ⟨w, delay, sound, rfl⟩ := ht
  exact ⟨delay, sound, hawaits.cycle_of_isFirstDown hk⟩

end Stutter

/-- While no key goes down the machine stays where it is; the first refresh in which one does
completes the wait at the next cycle. -/
theorem waiting_stutters {s : State} {x : Register} (h : s.AwaitsKey x)
    (hidle : ∀ k, ¬ s.keypad.WentDown s.seenKeys k) :
    (∀ cs : List (HostCall StateRequest), (∀ c ∈ cs, c.request.isQuiet = true) →
      ∃ w delay sound, s.afterAll cs = { s with opcode := w, delay := delay, sound := sound }) ∧
    ∀ cs : List (HostCall StateRequest),
      (∀ c ∈ cs, c.request.isQuiet = true ∨ c.request.isRefresh = true) →
      (s.keypad :: refreshes cs).IsChain (fun before now => ∀ k, ¬ now.WentDown before k) →
        (∃ w delay sound seenKeys, s.afterAll cs = { s with
          opcode := w
          delay := delay
          sound := sound
          keypad := (refreshes cs).getLastD s.keypad
          seenKeys := seenKeys }) ∧
        ∀ (c : HostCall StateRequest) (keys : Keypad), c.request.refresh? = some keys →
          (∃ k, keys.WentDown ((refreshes cs).getLastD s.keypad) k) →
          ∀ ticks : List (HostCall StateRequest), (∀ d ∈ ticks, d.request = .tick) →
            ∃ k delay sound, keys.IsFirstDown ((refreshes cs).getLastD s.keypad) k ∧
              (s.afterAll (cs ++ c :: ticks)).cycle = { s with
                opcode := s.nextWord
                pc := s.pc + 2
                registers := (s.setRegister x (UInt8.ofNat k)).registers
                delay := delay
                sound := sound
                keypad := keys
                seenKeys := keys } := by
  have hself := stutters_refl s
  refine ⟨fun cs hcs => hself.afterAll_of_quiet h hidle hcs, fun cs hcs hchain => ?_⟩
  obtain ⟨seenKeys, hlast⟩ := hself.afterAll h hidle hcs hchain
  refine ⟨?_, fun c keys hrefresh hdown ticks hticks => ?_⟩
  · obtain ⟨w, delay, sound, heq⟩ := hlast
    exact ⟨w, delay, sound, seenKeys, heq⟩
  · obtain ⟨j, hj⟩ := hdown
    obtain ⟨k, hk⟩ := Keypad.exists_isFirstDown hj
    have hpressed := (hlast.refreshKeys keys).afterAll_of_ticks hticks
    obtain ⟨delay, sound, hcycle⟩ := hpressed.completes h hk
    refine ⟨k, delay, sound, hk, ?_⟩
    rw [afterAll_append, afterAll_cons, after_of_refresh _ c.host c.console hrefresh, hcycle]

/-- A key that is held when the wait begins has to be released and to go down again. -/
theorem waiting_stutters_held :
    let s := (powerOn ⟨0, 0⟩ {}).afterAll
      [{ request := .loadProgram [0xF3, 0x0A] }, { request := .setPressed (.list [.int 7]) },
        { request := .setPressed (.list [.int 7]) }]
    let t := s.afterAll
      [{ request := .cycles 3 }, { request := .setPressed (.list []) }, { request := .cycle },
        { request := .setPressed (.list [.int 7]) }, { request := .tick }]
    s.AwaitsKey 3 ∧ (∀ k, ¬ s.keypad.WentDown s.seenKeys k) ∧
      t.cycle.pc = s.pc + 2 ∧ t.cycle.memory = s.memory ∧
        ∃ k, (Keypad.ofSet fun k => [7].contains k).IsFirstDown .released k ∧
          t.cycle.registers = (s.setRegister 3 (UInt8.ofNat k)).registers := by
  intro s t
  have hrun : s.fault = none ∧ s.nextWord = 0xF30A ∧ ∀ k, ¬ s.keypad.WentDown s.seenKeys k := by
    decide +kernel
  obtain ⟨hs, hw, hidle⟩ := hrun
  have hawaits : s.AwaitsKey 3 := ⟨hs, by rw [hw]; decide, by rw [hw]; decide, by rw [hw]; decide⟩
  obtain ⟨-, hcompletes⟩ := (waiting_stutters hawaits hidle).2
    [{ request := .cycles 3 }, { request := .setPressed (.list []) }, { request := .cycle }]
    (by decide) (by decide +kernel)
  obtain ⟨k, delay, sound, hk, hcycle⟩ := hcompletes { request := .setPressed (.list [.int 7]) }
    (.ofSet fun k => [7].contains k) rfl ⟨7, by decide +kernel⟩ [{ request := .tick }]
    (List.forall_mem_singleton.2 rfl)
  have ht : t.cycle = _ := hcycle
  refine ⟨hawaits, hidle, ?_, ?_, k, hk, ?_⟩
  · rw [ht]
  · rw [ht]
  · rw [ht]

end State

end Chip8
