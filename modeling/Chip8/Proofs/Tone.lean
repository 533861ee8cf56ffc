import Chip8.Proofs.Calls
import Mathlib.Data.List.Induction

/-!
# The tone that a host hears

A machine tells a listener when the tone starts and when it stops.  A call brings the listener up to
date, or leaves the tone as it is, or is a reset that fails: that one stops the tone and tells
nothing (`toneStep_after`).  So a host that goes by what it was told last is right as long as every
reset that fails under a sounding tone is followed by a call that brings the listener up to date,
and only then (`tone_heard_iff`).
-/

namespace Chip8

/-! ## Exchanges -/

/-- Whether a failure leaves the machine halted. -/
def Failure.isHalted : Failure → Bool
  | .halted _ _ => true
  | _ => false

namespace Exchange

/-- Whether an exchange brings the listener up to date: the timers have ticked, instructions were
executed, if only up to a fault, or the machine was reset. -/
def settles (e : Exchange) : Bool :=
  match e.request with
  | .tick => true
  | .reset => e.reply.failure.isNone
  | .step _ | .run _ _ | .runFrame => e.reply.failure.all Failure.isHalted
  | _ => false

/-- Whether an exchange is a reset that could not load again. -/
def isFailedReset (e : Exchange) : Bool :=
  match e.request with
  | .reset => e.reply.failure.isSome
  | _ => false

theorem settles_of_isFailedReset {e : Exchange} (h : e.isFailedReset = true) :
    e.settles = false := by
  unfold isFailedReset at h
  unfold settles
  split at h
  · next hreset =>
    rw [hreset]
    exact Option.isNone_eq_false_iff.2 h
  · cases h

/-- What the listener was told last in a number of exchanges, if the tone was off before. -/
def lastHeard (es : List Exchange) : Bool := (es.flatMap fun e => e.reply.sounds).getLastD false

/-- Every reset that failed under a tone that was heard is followed by an exchange that brings the
listener up to date. -/
def FailedResetsSettled (es : List Exchange) : Prop :=
  ∀ before e silent, es = before ++ e :: silent → e.isFailedReset = true →
    lastHeard before = true → ∃ d ∈ silent, d.settles = true

theorem failedResetsSettled_nil : FailedResetsSettled [] := by
  intro before e silent hsplit
  cases before with
  | nil => cases hsplit
  | cons d before => cases hsplit

theorem failedResetsSettled_concat (es : List Exchange) (e : Exchange) :
    FailedResetsSettled (es ++ [e]) ↔
      (e.settles = true ∨ FailedResetsSettled es) ∧
        ¬ (e.isFailedReset = true ∧ lastHeard es = true) := by
  constructor
  · intro h
    refine ⟨?_, fun ⟨hreset, hheard⟩ => ?_⟩
    · refine or_iff_not_imp_left.2 fun hsettles before d silent hsplit hreset hheard => ?_
      obtain ⟨d', hd', hsettles'⟩ := h before d (silent ++ [e]) (by rw [hsplit]; simp) hreset hheard
      rcases List.mem_append.1 hd' with hd' | hd'
      · exact ⟨d', hd', hsettles'⟩
      · rw [List.mem_singleton.1 hd'] at hsettles'
        exact absurd hsettles' hsettles
    · obtain ⟨d, hd, -⟩ := h es e [] rfl hreset hheard
      cases hd
  · rintro ⟨hearlier, hlast⟩ before d silent hsplit hreset hheard
    rcases List.eq_nil_or_concat silent with rfl | ⟨silent', e', rfl⟩
    · obtain ⟨rfl, rfl⟩ := List.append_singleton_inj.1 hsplit
      exact absurd ⟨hreset, hheard⟩ hlast
    · rw [List.concat_eq_append, ← List.cons_append, ← List.append_assoc,
        List.append_singleton_inj] at hsplit
      obtain ⟨hsplit, rfl⟩ := hsplit
      rw [List.concat_eq_append]
      rcases hearlier with hsettles | hearlier
      · exact ⟨e, List.mem_concat_self, hsettles⟩
      · obtain ⟨d', hd', hsettles⟩ := hearlier before d silent' hsplit hreset hheard
        exact ⟨d', List.mem_append_left _ hd', hsettles⟩

end Exchange

/-! ## Responses -/

/-- The listener of a machine is up to date after a response. -/
structure Response.Settled (m : Machine) (r : Response) : Prop where
  heard : r.machine.toneHeard = r.sounds.getLastD m.toneHeard
  current : r.machine.toneHeard = r.machine.state.soundActive

/-- A response neither changes the tone of a machine nor tells its listener anything. -/
structure Response.Quiet (m : Machine) (r : Response) : Prop where
  sounds : r.sounds = []
  toneHeard : r.machine.toneHeard = m.toneHeard
  soundActive : r.machine.state.soundActive = m.state.soundActive

/-- A response of a machine that executes instructions, or refuses to. -/
def Response.Executes (m : Machine) (r : Response) : Prop :=
  (r.failure.all Failure.isHalted = true ∧ r.Settled m) ∨
    (r.failure.all Failure.isHalted = false ∧ r.Quiet m)

theorem Outcome.settle_of_ok {o : Outcome State} {t : State} (before : State)
    (h : o.result = .ok t) : o.settle before = t := by
  rw [settle, h]

theorem Folder.resolve_letter (f : Folder) : f.resolve "a" = f.enter "" "a" [] := by
  have hparts : "a".splitOn "/" = ["a"] := by
    rw [String.splitOn, if_neg (by decide), String.splitOnAux, if_neg (by decide +kernel),
      if_neg (by decide +kernel), String.splitOnAux, if_pos (by decide +kernel)]
    decide +kernel
  have hrelative : ¬ "a".startsWith "/" = true := by decide +kernel
  rw [resolve, if_neg (by decide), if_neg (by decide), hparts, if_neg hrelative,
    follow, if_neg (by decide), if_neg (by decide)]

theorem getLastD_append {α : Type} (as bs : List α) (a : α) :
    (as ++ bs).getLastD a = bs.getLastD (as.getLastD a) := by
  simp only [List.getLastD_eq_getLast?, List.getLast?_append, Option.getD_or]

theorem Response.Settled.andThen {m : Machine} {r : Response} {next : Machine → Response}
    (hr : r.Settled m) (hok : r.failure = none) (hnext : (next r.machine).Settled r.machine) :
    (r.andThen next).Settled m := by
  rw [Response.andThen, hok]
  refine ⟨?_, hnext.current⟩
  rw [getLastD_append, ← hr.heard]
  exact hnext.heard

/-- Whether a request is an operation of a machine and no change of its state by hand. -/
def MachineRequest.isOperation : MachineRequest → Bool
  | .edit _ => false
  | _ => true

namespace Machine

section Responses

variable {m : Machine} {o : Outcome State}

theorem settled_notifyAfter (m : Machine) (s : State) (messages : List Message)
    (failure : Option Failure) :
    ({ m with state := s }.notifyAfter messages failure).Settled m := by
  simp only [notifyAfter, notify]
  split
  · next hsame => exact ⟨rfl, hsame.symm⟩
  · exact ⟨rfl, rfl⟩

theorem quiet_adopt (h : ∀ t, o.result = .ok t → t.sound = m.state.sound) :
    (m.adopt o).Quiet m := by
  unfold adopt
  split
  · next t ht => exact ⟨rfl, rfl, by rw [State.soundActive, h t ht, State.soundActive]⟩
  · exact ⟨rfl, rfl, rfl⟩

theorem quiet_insert (c : Cartridge) (h : ∀ t, o.result = .ok t → t.sound = m.state.sound) :
    (m.insert c o).Quiet m := by
  unfold insert
  split
  · next t ht => exact ⟨rfl, rfl, by rw [State.soundActive, h t ht, State.soundActive]⟩
  · exact ⟨rfl, rfl, rfl⟩

theorem executes_adoptChecked (m : Machine) (o : Outcome State) :
    (m.adoptChecked o).Executes m := by
  unfold adoptChecked
  split
  · exact .inl ⟨rfl, settled_notifyAfter _ _ _ _⟩
  · exact .inl ⟨rfl, settled_notifyAfter _ _ _ _⟩
  · next f hunhalted hf =>
    refine .inr ⟨?_, rfl, rfl, rfl⟩
    cases f with
    | halted fault s => exact absurd rfl (hunhalted fault s)
    | _ => rfl

theorem quiet_loadProgram (m : Machine) (p : Program) : (m.loadProgram p).Quiet m := by
  refine quiet_insert _ fun t ht => ?_
  obtain ⟨memory, hmemory⟩ := m.state.settle_loadProgram p
  rw [← Outcome.settle_of_ok m.state ht, hmemory]

theorem quiet_loadValue (m : Machine) (v : Value) : (m.loadValue v).Quiet m := by
  unfold loadValue
  split
  · exact quiet_loadProgram m _
  · exact ⟨rfl, rfl, rfl⟩

theorem quiet_loadFile (m : Machine) (host : Host) (path : String) :
    (m.loadFile host path).Quiet m := by
  refine quiet_insert _ fun t ht => ?_
  obtain ⟨memory, hmemory⟩ := m.state.after_loadFile host .forMachine path
  change (m.state.loadFile host path).settle m.state = _ at hmemory
  rw [← Outcome.settle_of_ok m.state ht, hmemory]

theorem quiet_refresh (m : Machine) (r : Except Failure Keypad) :
    (m.adopt (Outcome.lift (r.map m.state.refreshKeys))).Quiet m := by
  refine quiet_adopt fun t ht => ?_
  cases r with
  | ok keys =>
    cases ht
    rfl
  | error f => cases ht

theorem executes_frame (m : Machine) : m.frame.Executes m := by
  unfold frame
  split
  · next n hn =>
    cases hfailure : (m.run n).failure with
    | some f =>
      rw [Response.andThen, hfailure]
      exact executes_adoptChecked m _
    | none =>
      rcases executes_adoptChecked m (m.state.run n) with ⟨-, hrun⟩ | ⟨hrefused, -⟩
      · refine .inl ⟨?_, hrun.andThen hfailure (settled_notifyAfter _ _ _ _)⟩
        rw [Response.andThen, hfailure]
        rfl
      · change (m.run n).failure.all _ = _ at hrefused
        rw [hfailure] at hrefused
        cases hrefused
  · next f hf =>
    refine .inr ⟨?_, rfl, rfl, rfl⟩
    unfold Settings.instructionsPerFrame at hf
    split at hf
    · cases hf
      rfl
    · cases hf

theorem machine_loadFile_of_read {host : Host} {path : String} {p : Program}
    (hread : State.readProgram host path = .ok p) (hsize : p.size ≤ programCapacity) :
    (m.loadFile host path).machine =
      { m with
        state := { m.state with memory := m.state.memory.store State.programStart p.toList }
        cartridge := some (.file path) } := by
  have hload : (m.state.loadFile host path).result =
      .ok { m.state with memory := m.state.memory.store State.programStart p.toList } := by
    rw [State.loadFile, hread]
    change (m.state.loadProgram p).result = _
    rw [State.loadProgram, if_neg (Nat.not_lt.2 hsize)]
    rfl
  simp only [loadFile, insert, hload]

theorem soundActive_powerOnState (m : Machine) : m.powerOnState.soundActive = false := by
  simp only [powerOnState, State.powerOn, State.soundActive]
  rfl

theorem reset_of_ok {host : Host} {s : State}
    (h : (Cartridge.load host m.powerOnState m.cartridge).result = .ok s) :
    m.reset host = { m with state := s }.notifyAfter
      (Cartridge.load host m.powerOnState m.cartridge).messages none := by
  simp only [reset, h]

theorem reset_of_error {host : Host} {f : Failure}
    (h : (Cartridge.load host m.powerOnState m.cartridge).result = .error f) :
    m.reset host =
      ⟨{ m with state := m.powerOnState },
        (Cartridge.load host m.powerOnState m.cartridge).messages, [], some f⟩ := by
  simp only [reset, h, refuse]

theorem machine_reset_of_unreadable {host : Host} {path : String} {f : Failure}
    (hcartridge : m.cartridge = some (.file path))
    (hread : State.readProgram host path = .error f) :
    (m.reset host).machine = { m with state := m.powerOnState } := by
  have hload : (Cartridge.load host m.powerOnState m.cartridge).result = .error f := by
    rw [hcartridge, Cartridge.load, State.loadFile, hread]
    rfl
  rw [reset_of_error hload]

/-- A reset that fails is the one response that stops the tone and tells nothing. -/
theorem reset_cases (m : Machine) (host : Host) :
    ((m.reset host).failure = none ∧ (m.reset host).Settled m) ∨
      ((m.reset host).failure ≠ none ∧ (m.reset host).sounds = [] ∧
        (m.reset host).machine.toneHeard = m.toneHeard ∧
        (m.reset host).machine.state.soundActive = false) := by
  cases hload : (Cartridge.load host m.powerOnState m.cartridge).result with
  | ok s =>
    rw [reset_of_ok hload]
    exact .inl ⟨rfl, settled_notifyAfter _ _ _ _⟩
  | error f =>
    rw [reset_of_error hload]
    exact .inr ⟨Option.some_ne_none f, rfl, rfl, m.soundActive_powerOnState⟩

end Responses

/-! ## One call -/

/-- What an exchange does to the tone of a machine and to what its listener was told. -/
inductive ToneStep (m : Machine) (e : Exchange) (m' : Machine) : Prop where
  | settled (settles : e.settles = true)
      (heard : m'.toneHeard = e.reply.sounds.getLastD m.toneHeard)
      (current : m'.toneHeard = m'.state.soundActive)
  | silenced (failed : e.isFailedReset = true) (sounds : e.reply.sounds = [])
      (heard : m'.toneHeard = m.toneHeard) (inactive : m'.state.soundActive = false)
  | quiet (settles : e.settles = false) (failed : e.isFailedReset = false)
      (sounds : e.reply.sounds = []) (heard : m'.toneHeard = m.toneHeard)
      (same : m'.state.soundActive = m.state.soundActive)

theorem ToneStep.of_settled {m : Machine} {e : Exchange} {r : Response} (hr : r.Settled m)
    (hsettles : e.settles = true) (hsounds : e.reply.sounds = r.sounds) :
    ToneStep m e r.machine :=
  .settled hsettles (by rw [hsounds, hr.heard]) hr.current

theorem ToneStep.of_quiet {m : Machine} {e : Exchange} {r : Response} (hr : r.Quiet m)
    (hsettles : e.settles = false) (hreset : e.isFailedReset = false)
    (hsounds : e.reply.sounds = r.sounds) : ToneStep m e r.machine :=
  .quiet hsettles hreset (hsounds.trans hr.sounds) hr.toneHeard hr.soundActive

theorem ToneStep.of_executes {m : Machine} {e : Exchange} {r : Response} (hr : r.Executes m)
    (hsettles : e.settles = r.failure.all Failure.isHalted) (hreset : e.isFailedReset = false)
    (hsounds : e.reply.sounds = r.sounds) : ToneStep m e r.machine := by
  rcases hr with ⟨hexecuted, hr⟩ | ⟨hrefused, hr⟩
  · exact .of_settled hr (hsettles.trans hexecuted) hsounds
  · exact .of_quiet hr (hsettles.trans hrefused) hreset hsounds

theorem toneStep_after (m : Machine) {c : HostCall MachineRequest}
    (hc : c.request.isOperation = true) : ToneStep m (m.exchange c) (m.after c) := by
  obtain ⟨request, host, console⟩ := c
  cases request with
  | loadProgram content => exact .of_quiet (m.quiet_loadProgram (.bytes content)) rfl rfl rfl
  | loadValue v => exact .of_quiet (m.quiet_loadValue v) rfl rfl rfl
  | loadFile path => exact .of_quiet (m.quiet_loadFile host path) rfl rfl rfl
  | reset =>
    rcases m.reset_cases host with ⟨hok, hreset⟩ | ⟨hfailed, hsounds, hheard, hinactive⟩
    · exact .of_settled hreset (Option.isNone_iff_eq_none.2 hok) rfl
    · exact .silenced (Option.isSome_iff_ne_none.2 hfailed) hsounds hheard hinactive
  | edit change => cases hc
  | step strict => exact .of_executes (m.executes_adoptChecked (m.state.step strict)) rfl rfl rfl
  | run n progress =>
    cases progress with
    | false => exact .of_executes (m.executes_adoptChecked (m.state.run n)) rfl rfl rfl
    | true =>
      exact .of_executes (m.executes_adoptChecked (m.state.runWithProgress n).1) rfl rfl rfl
  | runFrame => exact .of_executes m.executes_frame rfl rfl rfl
  | resume skip => exact .quiet rfl rfl rfl rfl rfl
  | setKeys flags => exact .of_quiet (m.quiet_refresh (Keypad.ofFlags flags)) rfl rfl rfl
  | setPressed codes => exact .of_quiet (m.quiet_refresh (Keypad.ofCodes codes)) rfl rfl rfl
  | tick => exact .of_settled (settled_notifyAfter m m.state.tick [] none) rfl rfl
  | instructionsPerFrame =>
    rw [after, exchange, Session.onMachine]
    split
    · exact .quiet rfl rfl rfl rfl rfl
    · exact .quiet rfl rfl rfl rfl rfl
  | soundActive | frame | screen => exact .quiet rfl rfl rfl rfl rfl

/-! ## All calls -/

section Histories

variable (settings : Settings) (firstKey : Random.Key) {cs : List (HostCall MachineRequest)}

theorem toneHeard_afterAll (hcs : ∀ c ∈ cs, c.request.isOperation = true) :
    ((new settings firstKey).afterAll cs).toneHeard =
      Exchange.lastHeard ((new settings firstKey).exchanges cs) := by
  induction cs using List.reverseRecOn with
  | nil => rfl
  | append_singleton cs c ih =>
    obtain ⟨hearlier, hc⟩ := List.forall_mem_append.1 hcs
    rw [afterAll_concat, exchanges_concat, Exchange.lastHeard, List.flatMap_append,
      List.flatMap_singleton, getLastD_append]
    change _ = List.getLastD _ (Exchange.lastHeard _)
    rw [← ih hearlier]
    cases toneStep_after _ (hc c (List.mem_singleton_self c)) with
    | settled _ heard _ => exact heard
    | silenced _ sounds heard _ => rw [heard, sounds, List.getLastD_nil]
    | quiet _ _ sounds heard _ => rw [heard, sounds, List.getLastD_nil]

/-- A tone is never missed: a listener that is not up to date has heard one that has stopped. -/
theorem toneHeard_of_soundActive (hcs : ∀ c ∈ cs, c.request.isOperation = true)
    (hactive : ((new settings firstKey).afterAll cs).state.soundActive = true) :
    ((new settings firstKey).afterAll cs).toneHeard = true := by
  induction cs using List.reverseRecOn with
  | nil => cases hactive
  | append_singleton cs c ih =>
    obtain ⟨hearlier, hc⟩ := List.forall_mem_append.1 hcs
    rw [afterAll_concat] at hactive ⊢
    cases toneStep_after _ (hc c (List.mem_singleton_self c)) with
    | settled _ _ current => rw [current, hactive]
    | silenced _ _ _ inactive =>
      rw [inactive] at hactive
      cases hactive
    | quiet _ _ _ heard same =>
      rw [heard]
      exact ih hearlier (same ▸ hactive)

/-- What the listener was told last is whether the tone sounds, exactly when every reset that failed
under a tone is followed by a call that brings the listener up to date. -/
theorem tone_heard_iff (hcs : ∀ c ∈ cs, c.request.isOperation = true) :
    Exchange.lastHeard ((new settings firstKey).exchanges cs) =
        ((new settings firstKey).afterAll cs).state.soundActive ↔
      Exchange.FailedResetsSettled ((new settings firstKey).exchanges cs) := by
  rw [← toneHeard_afterAll settings firstKey hcs]
  induction cs using List.reverseRecOn with
  | nil => exact iff_of_true rfl Exchange.failedResetsSettled_nil
  | append_singleton cs c ih =>
    obtain ⟨hearlier, hc⟩ := List.forall_mem_append.1 hcs
    have hmissed := toneHeard_of_soundActive settings firstKey hearlier
    rw [afterAll_concat, exchanges_concat, Exchange.failedResetsSettled_concat, ← ih hearlier,
      ← toneHeard_afterAll settings firstKey hearlier]
    cases toneStep_after _ (hc c (List.mem_singleton_self c)) with
    | settled settles _ current =>
      refine iff_of_true current ⟨.inl settles, fun ⟨hfailed, _⟩ => ?_⟩
      rw [Exchange.settles_of_isFailedReset hfailed] at settles
      cases settles
    | silenced failed _ heard inactive =>
      rw [heard, inactive, Exchange.settles_of_isFailedReset failed, failed]
      cases hbefore : ((new settings firstKey).afterAll cs).toneHeard with
      | true => simp
      | false =>
        have hinactive : ((new settings firstKey).afterAll cs).state.soundActive = false := by
          refine Bool.eq_false_iff.2 fun hactive => ?_
          rw [hmissed hactive] at hbefore
          cases hbefore
        simp [hinactive]
    | quiet settles failed _ heard same =>
      rw [heard, same, settles, failed]
      simp

end Histories

/-- A program that starts the tone is loaded from a file and run.  The file is gone at the reset,
and the timers tick afterwards. -/
theorem tone_heard_iff_tick :
    let host := Host.ofFiles ⟨[("a", [0x60, 0x0A, 0xF0, 0x18])]⟩
    let cs : List (HostCall MachineRequest) :=
      [{ request := .loadFile "a", host := host }, { request := .run 2 false },
        { request := .reset }, { request := .tick }]
    (∀ c ∈ cs, c.request.isOperation = true) ∧
      Exchange.lastHeard ((new {} ⟨0, 0⟩).exchanges cs) =
        ((new {} ⟨0, 0⟩).afterAll cs).state.soundActive := by
  intro host cs
  have hcs : ∀ c ∈ cs, c.request.isOperation = true := by decide
  refine ⟨hcs, (tone_heard_iff {} ⟨0, 0⟩ hcs).2 ?_⟩
  have hlast : cs = cs.dropLast ++ [{ request := .tick }] := rfl
  rw [hlast, exchanges_concat, Exchange.failedResetsSettled_concat]
  exact ⟨.inl rfl, fun h => nomatch h.1⟩

/-- Before that tick, the listener goes by a tone that the reset has stopped. -/
theorem tone_stale_after_failed_reset :
    let host := Host.ofFiles ⟨[("a", [0x60, 0x0A, 0xF0, 0x18])]⟩
    let cs : List (HostCall MachineRequest) :=
      [{ request := .loadFile "a", host := host }, { request := .run 2 false },
        { request := .reset }]
    (∀ c ∈ cs, c.request.isOperation = true) ∧
      Exchange.lastHeard ((new {} ⟨0, 0⟩).exchanges cs) = true ∧
      ((new {} ⟨0, 0⟩).afterAll cs).state.soundActive = false := by
  intro host cs
  have hcs : ∀ c ∈ cs, c.request.isOperation = true := by decide
  have hread : State.readProgram host "a" = .ok (.bytes [0x60, 0x0A, 0xF0, 0x18]) := by
    rw [State.readProgram, if_neg (by decide), Folder.read, Folder.resolve_letter]
    rfl
  have hgone : State.readProgram .empty "a" = .error (.load (.unreadable "a" .missing)) := by
    rw [State.readProgram, if_neg (by decide), Folder.read, Folder.resolve_letter]
    rfl
  have hloaded := machine_loadFile_of_read (m := new {} ⟨0, 0⟩) hread (by decide)
  obtain ⟨m, hm, hheard, hcartridge⟩ : ∃ m, (new {} ⟨0, 0⟩).afterAll cs.dropLast = m ∧
      m.toneHeard = true ∧ m.cartridge = some (.file "a") := by
    refine ⟨_, rfl, ?_⟩
    change (((new {} ⟨0, 0⟩).loadFile host "a").machine.run 2).machine.toneHeard = true ∧
      (((new {} ⟨0, 0⟩).loadFile host "a").machine.run 2).machine.cartridge = _
    rw [hloaded]
    decide +kernel
  have hafter : (new {} ⟨0, 0⟩).afterAll cs = { m with state := m.powerOnState } := by
    change (((new {} ⟨0, 0⟩).afterAll cs.dropLast).reset .empty).machine = _
    rw [hm, machine_reset_of_unreadable hcartridge hgone]
  refine ⟨hcs, ?_, ?_⟩
  · rw [← toneHeard_afterAll {} ⟨0, 0⟩ hcs, hafter]
    exact hheard
  · rw [hafter]
    exact m.soundActive_powerOnState

end Machine

end Chip8
