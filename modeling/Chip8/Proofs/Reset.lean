import Chip8.Proofs.Loading
import Chip8.Proofs.Tone

/-!
# Resets

A machine remembers its settings, its first key and the last load that succeeded, and nothing else
outlives a reset (`Remembers`).  So a reset that succeeds leaves the very machine that a new one
becomes by that load alone, with the files as they are now, and no later call can tell the two
apart (`reset_forgets_history`).
-/

namespace Chip8

/-! ## The last load -/

/-- The bytes that a load brings into memory from this host. -/
def MachineRequest.content? (host : Host) : MachineRequest → Option (List UInt8)
  | .loadProgram content => some content
  | .loadValue v => (Program.ofIterable v).toOption.map Program.toList
  | .loadFile path => (host.files.read path).toOption
  | _ => none

/-- The bytes that a reset brings back after a last load, if there was one. -/
def MachineRequest.restored? (host : Host) : Option MachineRequest → Option (List UInt8)
  | some r => r.content? host
  | none => some []

namespace Exchange

/-- The load of an exchange that loaded something. -/
def load? (e : Exchange) : Option MachineRequest :=
  if e.request.isLoad = true ∧ e.reply.failure = none then some e.request else none

/-- The last load that succeeded. -/
def lastLoad? (es : List Exchange) : Option MachineRequest := (es.filterMap load?).getLast?

theorem lastLoad?_concat (es : List Exchange) (e : Exchange) :
    lastLoad? (es ++ [e]) = e.load?.or (lastLoad? es) := by
  rw [lastLoad?, List.filterMap_append, List.getLast?_append]
  cases hload : e.load? with
  | none => simp [hload, lastLoad?]
  | some r => simp [hload]

end Exchange

/-! ## What a load leads to -/

namespace State

variable {s t : State} {host : Host}

theorem loaded_nil (s : State) : s.Loaded [] s :=
  ⟨rfl, fun i hi => absurd hi (Nat.not_lt_zero i), fun _ _ _ => rfl⟩

theorem Loaded.sound {content : List UInt8} (h : s.Loaded content t) : t.sound = s.sound := by
  rw [h.others]

theorem loaded_of_result_loadProgram {p : Program} (h : (s.loadProgram p).result = .ok t) :
    s.Loaded p.toList t := by
  by_cases hfits : p.size ≤ programCapacity
  · rw [s.result_loadProgram_of_le hfits] at h
    cases h
    exact s.loaded_store (p.length_toList ▸ hfits)
  · rw [s.loadProgram_of_lt (Nat.lt_of_not_le hfits)] at h
    cases h

theorem result_loadFile_of_read {path : String} {p : Program}
    (hread : readProgram host path = .ok p) :
    (s.loadFile host path).result = (s.loadProgram p).result := by
  rw [loadFile, hread]
  rfl

theorem readProgram_letter (host : Host) :
    readProgram host "a" = (host.files.get? "a").elim (.error (.load (.unreadable "a" .missing)))
      fun content => if host.room < content.length then .error .outOfMemory
        else .ok (.bytes content) := by
  have hname : ¬ Folder.maxName < "a".utf8ByteSize := by decide
  have henter : host.files.enter "" "a" [] =
      (host.files.get? "a").elim (.free "a") fun content => .file "a" content := by
    have hjoin : "" ++ "a" = "a" := rfl
    simp only [Folder.enter, if_neg hname, hjoin]
    cases host.files.get? "a" <;> rfl
  rw [readProgram, if_neg (by decide), Folder.read, Folder.resolve_letter, henter]
  cases host.files.get? "a" <;> rfl

theorem read_of_readProgram {path : String} {p : Program}
    (hread : readProgram host path = .ok p) : host.files.read path = .ok p.toList := by
  unfold readProgram at hread
  split at hread
  · cases hread
  · split at hread
    · next content hcontent =>
      split at hread
      · cases hread
      · cases hread
        exact hcontent
    · cases hread

end State

/-- A cartridge that loads brings in its bytes and nothing else. -/
theorem Cartridge.loaded_of_result_load {host : Host} {s t : State} {r : MachineRequest}
    {k : Cartridge} (hk : r.cartridge? = some k)
    (h : (Cartridge.load host s (some k)).result = .ok t) :
    ∃ content, r.content? host = some content ∧ s.Loaded content t := by
  cases r with
  | loadProgram content =>
    cases hk
    exact ⟨content, rfl, State.loaded_of_result_loadProgram h⟩
  | loadValue v =>
    obtain ⟨p, hp, rfl⟩ := Option.map_eq_some_iff.1 hk
    refine ⟨p.toList, ?_, State.loaded_of_result_loadProgram h⟩
    rw [MachineRequest.content?, hp]
    rfl
  | loadFile path =>
    cases hk
    cases hread : State.readProgram host path with
    | ok p =>
      rw [Cartridge.load, State.result_loadFile_of_read hread] at h
      refine ⟨p.toList, ?_, State.loaded_of_result_loadProgram h⟩
      rw [MachineRequest.content?, State.read_of_readProgram hread]
      rfl
    | error f =>
      rw [Cartridge.load, State.loadFile, hread] at h
      cases h
  | _ => cases hk

/-! ## What outlives a call -/

namespace Machine

/-- Two machines have the same settings and first key, and the same to load at a reset. -/
structure Keeps (m m' : Machine) : Prop where
  settings : m'.settings = m.settings
  firstKey : m'.firstKey = m.firstKey
  cartridge : m'.cartridge = m.cartridge

section Responses

variable (m : Machine)

theorem keeps_notifyAfter (s : State) (messages : List Message) (failure : Option Failure) :
    m.Keeps ({ m with state := s }.notifyAfter messages failure).machine := by
  rw [machine_notifyAfter]
  exact ⟨rfl, rfl, rfl⟩

theorem keeps_adopt (o : Outcome State) : m.Keeps (m.adopt o).machine := by
  unfold adopt
  split
  · exact ⟨rfl, rfl, rfl⟩
  · exact ⟨rfl, rfl, rfl⟩

theorem keeps_adoptChecked (o : Outcome State) : m.Keeps (m.adoptChecked o).machine := by
  unfold adoptChecked
  split
  · exact m.keeps_notifyAfter _ _ _
  · exact m.keeps_notifyAfter _ _ _
  · exact ⟨rfl, rfl, rfl⟩

theorem keeps_reset (host : Host) : m.Keeps (m.reset host).machine := by
  cases hload : (Cartridge.load host m.powerOnState m.cartridge).result with
  | ok s =>
    rw [reset_of_ok hload]
    exact m.keeps_notifyAfter s _ none
  | error f =>
    rw [reset_of_error hload]
    exact ⟨rfl, rfl, rfl⟩

theorem Keeps.trans {m m' m'' : Machine} (h : m.Keeps m') (h' : m'.Keeps m'') : m.Keeps m'' :=
  ⟨h'.settings.trans h.settings, h'.firstKey.trans h.firstKey, h'.cartridge.trans h.cartridge⟩

theorem keeps_frame : m.Keeps m.frame.machine := by
  unfold frame
  split
  · next n hn =>
    have hrun : m.Keeps (m.run n).machine := m.keeps_adoptChecked _
    unfold Response.andThen
    split
    · exact hrun
    · exact hrun.trans ((m.run n).machine.keeps_notifyAfter _ [] none)
  · exact ⟨rfl, rfl, rfl⟩

end Responses

theorem keeps_after (m : Machine) {c : HostCall MachineRequest} (hc : c.request.isLoad = false) :
    m.Keeps (m.after c) := by
  obtain ⟨request, host, console⟩ := c
  cases request with
  | loadProgram | loadValue | loadFile => cases hc
  | reset => exact m.keeps_reset host
  | step strict => exact m.keeps_adoptChecked (m.state.step strict)
  | run n progress =>
    cases progress with
    | false => exact m.keeps_adoptChecked (m.state.run n)
    | true => exact m.keeps_adoptChecked (m.state.runWithProgress n).1
  | runFrame => exact m.keeps_frame
  | setKeys flags => exact m.keeps_adopt (m.state.setKeys flags)
  | setPressed codes => exact m.keeps_adopt (m.state.setPressed codes)
  | tick => exact m.keeps_notifyAfter m.state.tick [] none
  | instructionsPerFrame =>
    rw [after, Session.onMachine]
    split
    · exact ⟨rfl, rfl, rfl⟩
    · exact ⟨rfl, rfl, rfl⟩
  | edit | resume | soundActive | frame | screen => exact ⟨rfl, rfl, rfl⟩

theorem settings_after (m : Machine) (c : HostCall MachineRequest) :
    (m.after c).settings = m.settings := by
  cases hc : c.request.isLoad with
  | false => exact (m.keeps_after hc).settings
  | true =>
    cases hk : c.request.cartridge? with
    | none => rw [(m.after_of_no_cartridge hc hk).1]
    | some k =>
      rw [(m.after_of_cartridge hk).1]
      cases hload : (Cartridge.load c.host m.state (some k)).result with
      | ok s => rw [m.insertion_of_ok hload]
      | error f => rw [m.insertion_of_error hload]

/-- What a machine remembers of its history: the settings, the first key and the last load. -/
structure Remembers (settings : Settings) (firstKey : Random.Key)
    (last : Option MachineRequest) (m : Machine) : Prop where
  settings : m.settings = settings
  firstKey : m.firstKey = firstKey
  nothing : last = none → m.cartridge = none
  load : ∀ r, last = some r → ∃ k, r.cartridge? = some k ∧ m.cartridge = some k

section Histories

variable {settings : Settings} {firstKey : Random.Key} {last : Option MachineRequest}
  {m : Machine}

theorem Remembers.keeps {m' : Machine} (h : Remembers settings firstKey last m)
    (hkeeps : m.Keeps m') : Remembers settings firstKey last m' where
  settings := hkeeps.settings.trans h.settings
  firstKey := hkeeps.firstKey.trans h.firstKey
  nothing hnone := hkeeps.cartridge.trans (h.nothing hnone)
  load r hr := by
    obtain ⟨k, hk, hcartridge⟩ := h.load r hr
    exact ⟨k, hk, hkeeps.cartridge.trans hcartridge⟩

/-- A load that succeeds is remembered instead of the last one; all other calls change nothing of
what is remembered. -/
theorem Remembers.after (h : Remembers settings firstKey last m) (c : HostCall MachineRequest) :
    Remembers settings firstKey ((m.exchange c).load?.or last) (m.after c) := by
  have hrequest : (m.exchange c).request = c.request := rfl
  cases hc : c.request.isLoad with
  | false =>
    have hnone : (m.exchange c).load? = none := by
      rw [Exchange.load?, hrequest, hc]
      exact if_neg fun hand => nomatch hand.1
    rw [hnone, Option.none_or]
    exact h.keeps (m.keeps_after hc)
  | true =>
    by_cases hok : (m.exchange c).reply.failure = none
    · have hsome : (m.exchange c).load? = some c.request := if_pos ⟨hc, hok⟩
      rw [hsome, Option.some_or]
      cases hk : c.request.cartridge? with
      | none => exact absurd hok (m.after_of_no_cartridge hc hk).2
      | some k =>
        obtain ⟨hafter, hfailure⟩ := m.after_of_cartridge hk
        cases hload : (Cartridge.load c.host m.state (some k)).result with
        | ok s =>
          rw [hafter, m.insertion_of_ok hload]
          refine ⟨h.settings, h.firstKey, fun hnone => ?_, fun r hr => ?_⟩
          · cases hnone
          · cases hr
            exact ⟨k, hk, rfl⟩
        | error f =>
          rw [hfailure, m.failure_insertion, Outcome.failure?_of_error hload] at hok
          cases hok
    · have hnone : (m.exchange c).load? = none := if_neg fun hand => hok hand.2
      rw [hnone, Option.none_or, m.after_of_failed_load hc hok]
      exact h

theorem remembers_afterAll (settings : Settings) (firstKey : Random.Key)
    (cs : List (HostCall MachineRequest)) :
    Remembers settings firstKey (Exchange.lastLoad? ((new settings firstKey).exchanges cs))
      ((new settings firstKey).afterAll cs) := by
  induction cs using List.reverseRecOn with
  | nil => exact ⟨rfl, rfl, fun _ => rfl, fun r hr => nomatch hr⟩
  | append_singleton cs c ih =>
    rw [exchanges_concat, Exchange.lastLoad?_concat, afterAll_concat]
    exact ih.after c

/-! ## After a reset -/

/-- The calls of a host that makes at most one load. -/
def loadCalls (host : Host) (console : Console) (last : Option MachineRequest) :
    List (HostCall MachineRequest) :=
  last.toList.map fun r => { request := r, host := host, console := console }

theorem Remembers.powerOnState (h : Remembers settings firstKey last m) :
    m.powerOnState = .powerOn firstKey settings.dialect := by
  rw [Machine.powerOnState, h.settings, h.firstKey]

/-- The remembered load brings its bytes into a state, and nothing else. -/
theorem Remembers.loaded (h : Remembers settings firstKey last m) {host : Host} {s t : State}
    (hload : (Cartridge.load host s m.cartridge).result = .ok t) :
    ∃ content, MachineRequest.restored? host last = some content ∧ s.Loaded content t := by
  cases last with
  | none =>
    rw [h.nothing rfl] at hload
    exact ⟨[], rfl, Except.ok.inj hload ▸ s.loaded_nil⟩
  | some r =>
    obtain ⟨k, hk, hcartridge⟩ := h.load r rfl
    rw [hcartridge] at hload
    exact Cartridge.loaded_of_result_load hk hload

/-- A new machine gets to what is remembered by the load alone. -/
theorem Remembers.afterAll_loadCalls (h : Remembers settings firstKey last m) {host : Host}
    (console : Console) {t : State}
    (hload : (Cartridge.load host (new settings firstKey).state m.cartridge).result = .ok t) :
    (new settings firstKey).afterAll (loadCalls host console last) =
      { new settings firstKey with state := t, cartridge := m.cartridge } := by
  cases last with
  | none =>
    rw [h.nothing rfl] at hload ⊢
    rw [← Except.ok.inj hload]
    rfl
  | some r =>
    obtain ⟨k, hk, hcartridge⟩ := h.load r rfl
    rw [hcartridge] at hload ⊢
    let c : HostCall MachineRequest := { request := r, host := host, console := console }
    obtain ⟨hafter, -⟩ := (new settings firstKey).after_of_cartridge (c := c) hk
    exact hafter.trans ((new settings firstKey).insertion_of_ok hload)

theorem Remembers.failure_loadCalls (h : Remembers settings firstKey last m) (host : Host)
    (console : Console) :
    ((new settings firstKey).exchanges (loadCalls host console last)).findSome?
        (·.reply.failure) =
      (Cartridge.load host (new settings firstKey).state m.cartridge).failure? := by
  cases last with
  | none =>
    rw [h.nothing rfl]
    rfl
  | some r =>
    obtain ⟨k, hk, hcartridge⟩ := h.load r rfl
    let c : HostCall MachineRequest := { request := r, host := host, console := console }
    obtain ⟨-, hfailure⟩ := (new settings firstKey).after_of_cartridge (c := c) hk
    change [(new settings firstKey).exchange c].findSome? _ = _
    rw [List.findSome?_singleton, hfailure, failure_insertion, hcartridge]

/-- A reset that succeeds leaves a new machine with the remembered load. -/
theorem Remembers.machine_reset (h : Remembers settings firstKey last m) {host : Host}
    {t : State} (hload : (Cartridge.load host m.powerOnState m.cartridge).result = .ok t) :
    (m.reset host).machine =
      { new settings firstKey with state := t, cartridge := m.cartridge } := by
  obtain ⟨content, -, hloaded⟩ := h.loaded hload
  have hsilent : t.soundActive = false := by
    rw [State.soundActive, hloaded.sound]
    exact m.soundActive_powerOnState
  rw [reset_of_ok hload, machine_notifyAfter, hsilent, new, ← h.settings, ← h.firstKey]

end Histories

theorem failure_reset (m : Machine) (host : Host) :
    (m.reset host).failure = (Cartridge.load host m.powerOnState m.cartridge).failure? := by
  cases hload : (Cartridge.load host m.powerOnState m.cartridge).result with
  | ok t =>
    rw [reset_of_ok hload, Outcome.failure?_of_ok hload]
    rfl
  | error f => rw [reset_of_error hload, Outcome.failure?_of_error hload]

/-- A reset fails as the last load that succeeded would fail on a new machine, with the files as
they are now.  If it does not fail, the state is that of power-on with the bytes of that load, and
from then on a host sees what it would see of a new machine with that load alone.  If it fails, the
state is that of power-on. -/
theorem reset_forgets_history (settings : Settings) (firstKey : Random.Key)
    (cs : List (HostCall MachineRequest)) (host : Host) (console : Console) :
    let m := (new settings firstKey).afterAll cs
    let reset : HostCall MachineRequest :=
      { request := .reset, host := host, console := console }
    let last := Exchange.lastLoad? ((new settings firstKey).exchanges cs)
    let load := loadCalls host console last
    let fresh := (new settings firstKey).afterAll load
    (m.exchange reset).reply.failure =
      ((new settings firstKey).exchanges load).findSome? (·.reply.failure) ∧
    ((m.exchange reset).reply.failure = none →
      (∃ content, MachineRequest.restored? host last = some content ∧
        (State.powerOn firstKey settings.dialect).Loaded content (m.after reset).state) ∧
      ∀ ds, (m.after reset).exchanges ds = fresh.exchanges ds ∧
        ((m.after reset).afterAll ds).state = (fresh.afterAll ds).state) ∧
    ((m.exchange reset).reply.failure ≠ none →
      (m.after reset).state = .powerOn firstKey settings.dialect) := by
  intro m reset last load fresh
  have hm : Remembers settings firstKey last m := remembers_afterAll settings firstKey cs
  have hafter : m.after reset = (m.reset host).machine := rfl
  have hfailure : (m.exchange reset).reply.failure =
      (Cartridge.load host m.powerOnState m.cartridge).failure? := m.failure_reset host
  rw [hafter, hfailure]
  refine ⟨?_, ?_⟩
  · rw [hm.failure_loadCalls host console, hm.powerOnState]
    rfl
  · cases hload : (Cartridge.load host m.powerOnState m.cartridge).result with
    | ok t =>
      rw [Outcome.failure?_of_ok hload]
      have hreset := hm.machine_reset hload
      rw [hm.powerOnState] at hload
      have hsame : (m.reset host).machine = fresh :=
        hreset.trans (hm.afterAll_loadCalls console hload).symm
      refine ⟨fun _ => ⟨?_, fun ds => ?_⟩, fun hfails => absurd rfl hfails⟩
      · rw [hreset]
        exact hm.loaded hload
      · rw [hsame]
        exact ⟨rfl, rfl⟩
    | error f =>
      rw [Outcome.failure?_of_error hload, reset_of_error hload]
      exact ⟨fun hok => (nomatch hok), fun _ => hm.powerOnState⟩

/-- A program that starts the tone is run, a longer one is refused, and the machine is reset; and a
reset after the file of the last load is gone. -/
theorem reset_forgets_history_refused :
    let bytes : List UInt8 := [0x60, 0x0A, 0xF0, 0x18]
    let m := (new {} ⟨0, 0⟩).afterAll
      [{ request := .loadProgram bytes }, { request := .run 2 false },
        { request := .loadValue (.list [.int 0x12, .int 0, .int 0, .int 0, .int 256]) }]
    let m' := (new {} ⟨0, 0⟩).afterAll
      [{ request := .loadFile "a", host := .ofFiles ⟨[("a", bytes)]⟩ }, { request := .run 2 false }]
    let reset : HostCall MachineRequest := { request := .reset }
    ((m.exchange reset).reply.failure = none ∧
        (State.powerOn ⟨0, 0⟩ {}).Loaded bytes (m.after reset).state) ∧
      (m'.exchange reset).reply.failure ≠ none ∧
        (m'.after reset).state = State.powerOn ⟨0, 0⟩ {} := by
  intro bytes m m' reset
  have hok : (m.exchange reset).reply.failure = none :=
    Option.isNone_iff_eq_none.1 (by decide +kernel)
  obtain ⟨⟨content, hcontent, hloaded⟩, -⟩ :=
    (reset_forgets_history {} ⟨0, 0⟩ _ .empty .forMachine).2.1 hok
  have hbytes : content = bytes := by
    refine Option.some.inj (hcontent.symm.trans ?_)
    decide +kernel
  have hcartridge : m'.cartridge = some (.file "a") := by
    have hread : State.readProgram (.ofFiles ⟨[("a", bytes)]⟩) "a" = .ok (.bytes bytes) :=
      State.readProgram_letter _
    have hrun : m'.cartridge =
        ((new {} ⟨0, 0⟩).loadFile (.ofFiles ⟨[("a", bytes)]⟩) "a").machine.cartridge :=
      (keeps_after _ (c := { request := .run 2 false }) rfl).cartridge
    rw [hrun, machine_loadFile_of_read hread (by decide)]
  have hgone : State.readProgram .empty "a" = .error (.load (.unreadable "a" .missing)) :=
    State.readProgram_letter .empty
  have hload : (Cartridge.load .empty m'.powerOnState m'.cartridge).result =
      .error (.load (.unreadable "a" .missing)) := by
    rw [hcartridge, Cartridge.load, State.loadFile, hgone]
    rfl
  have hfails : (m'.exchange reset).reply.failure ≠ none := by
    change (m'.reset .empty).failure ≠ none
    rw [reset_of_error hload]
    exact Option.some_ne_none _
  exact ⟨⟨hok, hbytes ▸ hloaded⟩, hfails,
    (reset_forgets_history {} ⟨0, 0⟩ _ .empty .forMachine).2.2 hfails⟩

end Machine

end Chip8
