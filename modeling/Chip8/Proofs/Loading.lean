import Chip8.Proofs.Calls

/-!
# Loading

A load is all or nothing (`load_exact_or_void`).  A program that fits is found in memory byte by
byte and nothing else has changed; a program that does not fit, or data that are no bytes, leave
everything as it was.  On a machine every load comes down to `Machine.insert`
(`after_of_cartridge`), which takes over the state and the cartridge together or not at all.
-/

namespace Chip8

/-! ## Stores -/

namespace Memory

variable (m : Memory) (a : Nat)

theorem read_store_of_lt {bs : List UInt8} {i : Nat} (hi : i < bs.length) (ha : a + i < 4096) :
    (m.store a bs).read (a + i) = bs[i] := by
  have hin : a ≤ a + i ∧ a + i < a + bs.length := by omega
  rw [read_store _ _ _ _ ha, if_pos hin, Nat.add_sub_cancel_left, List.getD_eq_getElem?_getD,
    List.getElem?_eq_getElem hi, Option.getD_some]

theorem read_store_of_outside {bs : List UInt8} {k : Nat} (hk : k < 4096)
    (hout : k < a ∨ a + bs.length ≤ k) : (m.store a bs).read k = m.read k := by
  have hnot : ¬ (a ≤ k ∧ k < a + bs.length) := by omega
  rw [read_store _ _ _ _ hk, if_neg hnot]

/-- A store that reaches at least as far hides an earlier one. -/
theorem store_store {bs cs : List UInt8} (h : bs.length ≤ cs.length) :
    (m.store a bs).store a cs = m.store a cs := by
  refine ext_read fun k hk => ?_
  by_cases hin : a ≤ k ∧ k < a + cs.length
  · rw [read_store _ _ _ _ hk, if_pos hin, read_store _ _ _ _ hk, if_pos hin]
  · have hout : k < a ∨ a + cs.length ≤ k := by omega
    have hout' : k < a ∨ a + bs.length ≤ k := by omega
    rw [read_store_of_outside _ _ hk hout, read_store_of_outside _ _ hk hout',
      read_store_of_outside _ _ hk hout]

end Memory

/-! ## Bytes as integers -/

namespace Program

theorem byteOfInt_of_byte {i : Int} (h : 0 ≤ i ∧ i ≤ 255) :
    byteOfInt i = .ok (UInt8.ofNat i.toNat) :=
  if_pos ⟨h.1, by omega⟩

theorem byteOfInt_of_not_byte {i : Int} (h : ¬ (0 ≤ i ∧ i ≤ 255)) :
    byteOfInt i = .error (.load .itemOutOfRange) :=
  if_neg (by omega)

theorem mapM_byteOfItem {is : List Int} (h : ∀ i ∈ is, 0 ≤ i ∧ i ≤ 255) :
    (is.map Value.int).mapM byteOfItem = .ok (is.map fun i => UInt8.ofNat i.toNat) := by
  induction is with
  | nil => rfl
  | cons i is ih =>
    obtain ⟨hi, his⟩ := List.forall_mem_cons.1 h
    rw [List.map_cons, List.mapM_cons, byteOfItem, byteOfInt_of_byte hi, ih his]
    rfl

/-- The items before the first bad one make no difference, and those after it are not looked at. -/
theorem mapM_byteOfItem_error {is : List Int} (h : ∃ i ∈ is, ¬ (0 ≤ i ∧ i ≤ 255)) :
    (is.map Value.int).mapM byteOfItem = .error (.load .itemOutOfRange) := by
  induction is with
  | nil =>
    obtain ⟨i, hi, -⟩ := h
    cases hi
  | cons i is ih =>
    rw [List.map_cons, List.mapM_cons, byteOfItem]
    by_cases hi : 0 ≤ i ∧ i ≤ 255
    · have his : ∃ j ∈ is, ¬ (0 ≤ j ∧ j ≤ 255) := by
        obtain ⟨j, hj, hout⟩ := h
        rcases List.mem_cons.1 hj with rfl | hlater
        · exact absurd hi hout
        · exact ⟨j, hlater, hout⟩
      rw [byteOfInt_of_byte hi, ih his]
      rfl
    · rw [byteOfInt_of_not_byte hi]
      rfl

theorem ofItems_of_bytes {is : List Int} (h : ∀ i ∈ is, 0 ≤ i ∧ i ≤ 255) :
    ofItems (is.map Value.int) = .ok (.bytes (is.map fun i => UInt8.ofNat i.toNat)) := by
  rw [ofItems, mapM_byteOfItem h]
  rfl

theorem ofItems_of_not_bytes {is : List Int} (h : ∃ i ∈ is, ¬ (0 ≤ i ∧ i ≤ 255)) :
    ofItems (is.map Value.int) = .error (.load .itemOutOfRange) := by
  rw [ofItems, mapM_byteOfItem_error h]
  rfl

end Program

/-! ## Loads into a state -/

namespace State

/-- A state holds a program from 0x200 on and is otherwise the same as another. -/
structure Loaded (s : State) (content : List UInt8) (t : State) : Prop where
  others : t = { s with memory := t.memory }
  inside : ∀ i (hi : i < content.length), t.memory.read (0x200 + i) = content[i]
  outside : ∀ a < 4096, a < 0x200 ∨ 0x200 + content.length ≤ a →
    t.memory.read a = s.memory.read a

theorem loaded_store (s : State) {content : List UInt8}
    (h : content.length ≤ programCapacity) :
    s.Loaded content { s with memory := s.memory.store programStart content } := by
  have hend : programStart + content.length ≤ 4096 := Nat.add_le_of_le_sub' (by decide) h
  refine ⟨rfl, ?_, ?_⟩
  · intro i hi
    exact s.memory.read_store_of_lt programStart hi (by omega)
  · intro a ha hout
    exact s.memory.read_store_of_outside programStart ha hout

theorem result_loadProgram_of_le (s : State) {p : Program} (h : p.size ≤ programCapacity) :
    (s.loadProgram p).result =
      .ok { s with memory := s.memory.store programStart p.toList } := by
  rw [loadProgram, if_neg (Nat.not_lt.2 h)]
  rfl

theorem loadProgram_of_lt (s : State) {p : Program} (h : programCapacity < p.size) :
    s.loadProgram p = Outcome.fail (.load (.tooLarge p.size)) :=
  if_pos h

section Calls

variable (s : State) (host : Host) (console : Console)

theorem accepts_loadProgram {content : List UInt8} (h : content.length ≤ programCapacity) :
    (s.reply host console (.loadProgram content)).failure = none ∧
      s.after host console (.loadProgram content) =
        { s with memory := s.memory.store programStart content } := by
  have hresult := s.result_loadProgram_of_le (p := .bytes content) h
  constructor
  · exact Outcome.failure?_of_ok hresult
  · change (s.loadProgram (.bytes content)).settle s = _
    rw [Outcome.settle, hresult]
    rfl

theorem refuses_loadProgram {content : List UInt8} (h : programCapacity < content.length) :
    (s.reply host console (.loadProgram content)).failure =
        some (.load (.tooLarge content.length)) ∧
      s.after host console (.loadProgram content) = s := by
  have hfails := s.loadProgram_of_lt (p := .bytes content) h
  constructor
  · change (s.loadProgram (.bytes content)).failure? = _
    rw [hfails]
    rfl
  · change (s.loadProgram (.bytes content)).settle s = _
    rw [hfails]
    rfl

theorem onState_loadValue_of_bytes {is : List Int} (h : ∀ i ∈ is, 0 ≤ i ∧ i ≤ 255) :
    (Session.mk s host console).onState (.loadValue (.list (is.map .int))) =
      (Session.mk s host console).onState
        (.loadProgram (is.map fun i => UInt8.ofNat i.toNat)) := by
  have hload : s.loadValue host (.list (is.map .int)) =
      s.loadProgram (.bytes (is.map fun i => UInt8.ofNat i.toNat)) := by
    rw [loadValue, Program.ofValue, Program.ofItems_of_bytes h]
    rfl
  exact congrArg (Session.mk s host console).ofOutcome hload

theorem refuses_loadValue {is : List Int} (h : ∃ i ∈ is, ¬ (0 ≤ i ∧ i ≤ 255)) :
    (s.reply host console (.loadValue (.list (is.map .int)))).failure =
        some (.load .itemOutOfRange) ∧
      s.after host console (.loadValue (.list (is.map .int))) = s := by
  have hfails : s.loadValue host (.list (is.map .int)) = Outcome.fail (.load .itemOutOfRange) := by
    rw [loadValue, Program.ofValue, Program.ofItems_of_not_bytes h]
    rfl
  constructor
  · change (s.loadValue host (.list (is.map .int))).failure? = _
    rw [hfails]
    rfl
  · change (s.loadValue host (.list (is.map .int))).settle s = _
    rw [hfails]
    rfl

end Calls

end State

/-! ## Loads into a machine -/

namespace MachineRequest

/-- Whether a request is a load. -/
def isLoad : MachineRequest → Bool
  | .loadProgram _ | .loadValue _ | .loadFile _ => true
  | _ => false

/-- What a load puts into a machine. -/
def cartridge? : MachineRequest → Option Cartridge
  | .loadProgram content => some (.program (.bytes content))
  | .loadValue v => (Program.ofIterable v).toOption.map .program
  | .loadFile path => some (.file path)
  | _ => none

end MachineRequest

namespace Machine

variable (m : Machine) {c : HostCall MachineRequest}

/-- The response to a cartridge that is put into a machine. -/
def insertion (host : Host) (k : Cartridge) : Response :=
  m.insert k (Cartridge.load host m.state (some k))

theorem after_of_cartridge {k : Cartridge} (hk : c.request.cartridge? = some k) :
    m.after c = (m.insertion c.host k).machine ∧
      (m.exchange c).reply.failure = (m.insertion c.host k).failure := by
  obtain ⟨request, host, console⟩ := c
  cases request with
  | loadProgram content =>
    cases hk
    exact ⟨rfl, rfl⟩
  | loadFile path =>
    cases hk
    exact ⟨rfl, rfl⟩
  | loadValue v =>
    change (m.loadValue v).machine = _ ∧ (m.loadValue v).failure = _
    rw [loadValue]
    cases hv : Program.ofIterable v with
    | error f => simp [MachineRequest.cartridge?, hv, Except.toOption] at hk
    | ok p =>
      have hk' : k = .program p := by
        simpa [MachineRequest.cartridge?, hv, Except.toOption, eq_comm] using hk
      rw [hk']
      exact ⟨rfl, rfl⟩
  | _ => cases hk

theorem after_of_no_cartridge (hc : c.request.isLoad = true)
    (hk : c.request.cartridge? = none) :
    m.after c = m ∧ (m.exchange c).reply.failure ≠ none := by
  obtain ⟨request, host, console⟩ := c
  cases request with
  | loadProgram content => cases hk
  | loadFile path => cases hk
  | loadValue v =>
    change (m.loadValue v).machine = m ∧ (m.loadValue v).failure ≠ none
    rw [loadValue]
    cases hv : Program.ofIterable v with
    | error f => exact ⟨rfl, Option.some_ne_none f⟩
    | ok p => simp [MachineRequest.cartridge?, hv, Except.toOption] at hk
  | _ => cases hc

section Insertions

variable {host : Host} {k : Cartridge}

/-- A cartridge that loads is taken over together with the state it leads to. -/
theorem insertion_of_ok {s : State} (h : (Cartridge.load host m.state (some k)).result = .ok s) :
    (m.insertion host k).machine = { m with state := s, cartridge := some k } := by
  rw [insertion, insert, h]

theorem insertion_of_error {f : Failure}
    (h : (Cartridge.load host m.state (some k)).result = .error f) :
    (m.insertion host k).machine = m := by
  rw [insertion, insert, h]
  rfl

theorem failure_insertion (host : Host) (k : Cartridge) :
    (m.insertion host k).failure = (Cartridge.load host m.state (some k)).failure? := by
  unfold insertion insert
  split
  · next s hs => exact (Outcome.failure?_of_ok hs).symm
  · next f hf => exact (Outcome.failure?_of_error hf).symm

end Insertions

theorem after_of_failed_load (hc : c.request.isLoad = true)
    (hfails : (m.exchange c).reply.failure ≠ none) : m.after c = m := by
  cases hk : c.request.cartridge? with
  | none => exact (m.after_of_no_cartridge hc hk).1
  | some k =>
    obtain ⟨hafter, hfailure⟩ := m.after_of_cartridge hk
    cases hload : (Cartridge.load c.host m.state (some k)).result with
    | ok s =>
      rw [hfailure, m.failure_insertion, Outcome.failure?_of_ok hload] at hfails
      exact absurd rfl hfails
    | error f => exact hafter.trans (m.insertion_of_error hload)

end Machine

/-! ## All or nothing -/

section

variable (s : State) (host : Host) (console : Console)

/-- A program of at most 3584 bytes is loaded exactly, and a longer one or a list with a number
that is no byte is refused without effect; a list of bytes is loaded as they are.  So a load hides
an earlier one that is not longer, and a load that fails leaves a machine as it is, with what it
will load at a reset. -/
theorem load_exact_or_void (p q : List UInt8) (items : List Int) (m : Machine)
    (c : HostCall MachineRequest) :
    (p.length ≤ 3584 →
      (s.reply host console (.loadProgram p)).failure = none ∧
        s.Loaded p (s.after host console (.loadProgram p))) ∧
    (3584 < p.length →
      (s.reply host console (.loadProgram p)).failure = some (.load (.tooLarge p.length)) ∧
        s.after host console (.loadProgram p) = s) ∧
    ((∀ i ∈ items, 0 ≤ i ∧ i ≤ 255) →
      let bytes := items.map fun i => UInt8.ofNat i.toNat
      s.reply host console (.loadValue (.list (items.map .int))) =
          s.reply host console (.loadProgram bytes) ∧
        s.after host console (.loadValue (.list (items.map .int))) =
          s.after host console (.loadProgram bytes)) ∧
    ((∃ i ∈ items, ¬ (0 ≤ i ∧ i ≤ 255)) →
      (s.reply host console (.loadValue (.list (items.map .int)))).failure =
          some (.load .itemOutOfRange) ∧
        s.after host console (.loadValue (.list (items.map .int))) = s) ∧
    (p.length ≤ q.length → q.length ≤ 3584 →
      (s.after host console (.loadProgram p)).after host console (.loadProgram q) =
        s.after host console (.loadProgram q)) ∧
    (c.request.isLoad = true → (m.exchange c).reply.failure ≠ none → m.after c = m) := by
  refine ⟨?_, s.refuses_loadProgram host console, ?_, s.refuses_loadValue host console, ?_,
    m.after_of_failed_load⟩
  · intro hfits
    obtain ⟨hok, hafter⟩ := s.accepts_loadProgram host console hfits
    rw [hafter]
    exact ⟨hok, s.loaded_store hfits⟩
  · intro hbytes
    have hsame := s.onState_loadValue_of_bytes host console hbytes
    exact ⟨congrArg (·.2) hsame, congrArg (·.1.subject) hsame⟩
  · intro hle hfits
    obtain ⟨-, hfirst⟩ := s.accepts_loadProgram host console (Nat.le_trans hle hfits)
    obtain ⟨-, hsecond⟩ := State.accepts_loadProgram _ host console hfits
    obtain ⟨-, hdirect⟩ := s.accepts_loadProgram host console hfits
    rw [hsecond, hfirst, hdirect, s.memory.store_store State.programStart hle]

end

/-- The greatest program and one byte more, a list with a bad number at its end, a shorter program
before a longer one, and a refused list on a machine. -/
theorem load_exact_or_void_full :
    let s := State.powerOn ⟨0, 0⟩ {}
    let m := Machine.new {} ⟨0, 0⟩
    let full := List.replicate 3584 (7 : UInt8)
    let bad : List Int := [0x60, 255, 256]
    let c : HostCall MachineRequest := { request := .loadValue (.list (bad.map .int)) }
    (full.length ≤ 3584 ∧ s.Loaded full (s.after .empty .forMachine (.loadProgram full))) ∧
      (3584 < (7 :: full).length ∧ s.after .empty .forMachine (.loadProgram (7 :: full)) = s) ∧
      ((∀ i ∈ [0x60, 255], 0 ≤ i ∧ i ≤ (255 : Int)) ∧
        s.after .empty .forMachine (.loadValue (.list ([0x60, 255].map .int))) =
          s.after .empty .forMachine (.loadProgram [0x60, 255])) ∧
      ((∃ i ∈ bad, ¬ (0 ≤ i ∧ i ≤ 255)) ∧
        s.after .empty .forMachine (.loadValue (.list (bad.map .int))) = s) ∧
      ([1, 2].length ≤ full.length ∧
        (s.after .empty .forMachine (.loadProgram [1, 2])).after .empty .forMachine
            (.loadProgram full) =
          s.after .empty .forMachine (.loadProgram full)) ∧
      (c.request.isLoad = true ∧ (m.exchange c).reply.failure ≠ none ∧ m.after c = m) := by
  intro s m full bad c
  have hfull : full.length = 3584 := List.length_replicate
  have hle : full.length ≤ 3584 := Nat.le_of_eq hfull
  have hlt : 3584 < (7 :: full).length := by rw [List.length_cons, hfull]; decide
  have hbytes : ∀ i ∈ [0x60, 255], 0 ≤ i ∧ i ≤ (255 : Int) := by decide
  have hbad : ∃ i ∈ bad, ¬ (0 ≤ i ∧ i ≤ 255) := by decide
  have hshort : [1, 2].length ≤ full.length := by rw [hfull]; decide
  have hrefused : (m.exchange c).reply.failure = some (.load .itemOutOfRange) := rfl
  have hfails : (m.exchange c).reply.failure ≠ none := by
    rw [hrefused]
    exact Option.some_ne_none _
  have hexact := load_exact_or_void s .empty .forMachine full full [0x60, 255] m c
  have hvoid := load_exact_or_void s .empty .forMachine (7 :: full) full bad m c
  have hhides := load_exact_or_void s .empty .forMachine [1, 2] full bad m c
  exact ⟨⟨hle, (hexact.1 hle).2⟩, ⟨hlt, (hvoid.2.1 hlt).2⟩, ⟨hbytes, (hexact.2.2.1 hbytes).2⟩,
    ⟨hbad, (hvoid.2.2.2.1 hbad).2⟩, ⟨hshort, hhides.2.2.2.2.1 hshort hle⟩,
    rfl, hfails, hvoid.2.2.2.2.2 rfl hfails⟩

end Chip8
